import ComponentMarkup.Script.ModuleItem

/-!
Statements, and whole modules.
-/

namespace ComponentMarkup.Script.Grammar
open ComponentMarkup.Script.Parser

/-! ## Loops -/

def condition (g : Grammar) : Parser Unit := do
  expectMark "("
  let _ ← g.expression
  expectMark ")"

/-- The rest of a counting loop, from the first semicolon on. -/
def loopWhile (g : Grammar) : Parser Unit := do
  expectMark ";"
  unless ← isMark ";" do
    let _ ← g.expression
  expectMark ";"
  unless ← isMark ")" do
    let _ ← g.expression
  expectMark ")"

/-- What the head of a loop can be, by what it starts with. -/
structure LoopStart where
  /-- Whether that can stand for the items of something. -/
  ranges : Bool
  /-- Whether it can stand for the keys of something. -/
  lists : Bool
  /-- Whether it can stand in front of a semicolon. -/
  counts : Bool

/-- The rest of the head of a loop, behind what it starts with. A loop that waits runs over
items. -/
def loopRest (g : Grammar) (waits : Bool) (start : LoopStart) : Parser Unit := do
  if ← isWord "of" then
    must start.ranges
    advance
    let _ ← g.assignment
    expectMark ")"
  else if ← isWord "in" then
    must (start.lists && !waits)
    advance
    let _ ← g.expression
    expectMark ")"
  else
    must (start.counts && !waits)
    g.loopWhile

/-- Variables in the head of a loop, behind their keyword, and the rest of the head. Keys are not
disposed of. -/
def loopVariables (g : Grammar) (kind : VariableKind) (waits : Bool) : Parser Unit := do
  let found ← within (fun c => { c with allowsIn := false }) (g.declarators kind true)
  let counts := (← context).isAmbient || found.all (Declarator.isComplete kind)
  g.loopRest waits { ranges := true, lists := kind != .disposed, counts }

/-- Whether `let` declares variables in the head of a loop. -/
def seesLoopLet : Parser Bool := do
  return (← isWord "let") && (← seesNext (do
    return (!(← seesOneOf ["in", "instanceof"]) && (← seesWord)) || (← isMark "[") ||
      (← isMark "\x7b")))

/-- Whether `using` declares a variable in the head of a loop, which does not have the name `of`. -/
def seesLoopUsing : Parser Bool := do
  let named := (← seesUsing) && (← seesNext (do return !(← isWord "of")))
  return named || (← seesAwaitUsing)

/-- An expression that a loop starts with. A loop over items does not start with `let`, nor with
`async` unless it waits. -/
def loopExpression (g : Grammar) (waits : Bool) : Parser Unit := do
  let isAsync := (← isWord "async") && (← seesNext (isWord "of"))
  let isLet ← isWord "let"
  let shape : Shape ← within (fun c => { c with allowsIn := false }) (g .expression)
  let lists := shape.isAssignable
  g.loopRest waits
    { ranges := lists && !isLet && (waits || !isAsync), lists, counts := shape.isValue }

def forHead (g : Grammar) : Parser Unit := do
  let waits ← takeWord "await"
  must (!waits || (← context).awaits)
  expectMark "("
  if ← isMark ";" then g.loopRest waits { ranges := false, lists := false, counts := true }
  else if ← takeWord "var" then g.loopVariables .changing waits
  else if ← takeWord "const" then g.loopVariables .fixed waits
  else if ← seesLoopLet then
    advance
    g.loopVariables .changing waits
  else if ← seesLoopUsing then
    must (← takeUsing)
    g.loopVariables .disposed waits
  else g.loopExpression waits

/-! ## Other control flow -/

def switchCase (g : Grammar) : Parser Unit := do
  if ← takeWord "case" then
    let _ ← g.expression
  else expectWord "default"
  expectMark ":"
  many do
    if (← isWord "case") || (← isWord "default") || (← isMark "\x7d") then return false
    let _ ← g.statement
    return true

def switchBody (g : Grammar) : Parser Unit := do
  expectMark "\x7b"
  many do
    if ← takeMark "\x7d" then return false
    g.switchCase
    return true

def tryRest (g : Grammar) : Parser Unit := do
  g.block
  let caught ← takeWord "catch"
  if caught then
    if ← takeMark "(" then
      let _ ← g.pattern
      g.typeNote
      expectMark ")"
    g.block
  if ← takeWord "finally" then g.block
  else must caught

/-- The label that a jump may name. -/
def jumpRest : Parser Unit := do
  unless ← seesEnd do
    let _ ← name
  endStatement

/-- A statement that a keyword opens, behind the keyword. -/
def keywordStatement? (g : Grammar) (word : String) : Option (Parser Unit) :=
  match word with
  | "if" => some do
      g.condition
      g.body
      if ← takeWord "else" then g.body
  | "for" => some do
      g.forHead
      g.body
  | "while" | "with" => some do
      g.condition
      g.body
  | "do" => some do
      g.body
      expectWord "while"
      g.condition
      let _ ← takeMark ";"
  | "continue" | "break" => some jumpRest
  | "return" => some do
      must (← context).returns
      unless ← seesEnd do
        let _ ← g.expression
      endStatement
  | "switch" => some do
      g.condition
      g.switchBody
  | "throw" => some do
      must (!(← isBroken))
      let _ ← g.expression
      endStatement
  | "try" => some g.tryRest
  | "debugger" => some endStatement
  | _ => none

/-! ## Statements -/

/-- An expression that stands alone, or a statement behind a label. -/
def plainStatement (g : Grammar) : Parser Statement := do
  let shape ← g.expression
  if ← takeMarkIf (shape = .name) ":" then
    g.body
    return .other
  endStatement
  match shape with
  | .string text => return .directive text
  | _ => return .other

/-- What `let` does, by what follows it. -/
inductive LetUse where
  | declares
  /-- It is a name in front of an operator, in a single expression. -/
  | operand
  /-- It is a name in an expression. -/
  | named
  /-- It is a name, and a statement of its own. -/
  | alone

/-- The use of `let` in front of a token. Where a statement is the whole body of another, only
brackets behind `let` make a declaration of it. -/
def letUse (alone : Bool) (next : Token) : LetUse :=
  match next with
  | .mark mark =>
      if List.contains [".", "?.", "("] mark then .named
      else if assignmentMarks.contains mark then .operand
      else if binaryMarks.contains mark && !List.contains ["&&", "||", "??"] mark then .operand
      else if mark = ";" || (alone && mark != "[") then .alone
      else .declares
  | .word "in" _ | .word "instanceof" _ => .operand
  | _ => if alone then .alone else .declares

def letStatement (g : Grammar) (alone : Bool) : Parser Statement := do
  let start ← get
  advance
  match letUse alone (← peek) with
  | .declares =>
      must (!alone)
      return .declaration (← g.bindings .changing)
  | .operand =>
      set start
      let _ ← g.assignment
      endStatement
      return .other
  | .named =>
      set start
      g.plainStatement
  | .alone =>
      endStatement
      return .other

/-- A statement that declares a function, from its keyword on. As the whole body of another
statement it neither waits nor hands out values. -/
def functionStatement (g : Grammar) (isAsync alone : Bool) : Parser Statement := do
  let (named, pace) ← g.knownFunction isAsync false
  must (!(alone && (pace.isAsync || pace.isGenerator)))
  return .declaration (.function named)

def classStatement (g : Grammar) (alone : Bool) : Parser Statement := do
  must (!alone)
  return .declaration (.classType (← g.classLike))

/-- A statement behind decorators. -/
def decoratedStatement (g : Grammar) (alone : Bool) : Parser Statement := do
  let _ ← g.decorators
  if ← takeWord "export" then g.exportRest true
  else
    classModifiers
    g.classStatement alone

/-- A statement that a word opens. -/
def wordStatement (g : Grammar) (word : String) (alone : Bool) : Parser Statement := do
  match word with
  | "class" => g.classStatement alone
  | "function" => g.functionStatement false alone
  | "let" => g.letStatement alone
  | "var" =>
      advance
      return .declaration (← g.bindings .changing)
  | "const" =>
      advance
      if (← isTyped) && (← isWord "enum") then
        g.enumRest
        return .declaration .silent
      must (!alone)
      return .declaration (← g.bindings .fixed)
  | "export" =>
      advance
      g.exportRest false
  | "import" =>
      if ← seesNext (do return (← isMark "(") || (← isMark ".")) then g.plainStatement
      else
        advance
        importRest
        return .other
  | _ =>
      match g.keywordStatement? word with
      | some rest =>
          advance
          rest
          return .other
      | none =>
          if ← seesAsyncFunction then
            advance
            g.functionStatement true alone
          else if ← takeUsing then
            must (!alone)
            return .declaration (← g.bindings .disposed)
          else if ← opensTyped then return .declaration (← g.typedDeclaration)
          else g.plainStatement

/-- Rules for statements. -/
def readStatement (g : Grammar) (alone : Bool) : Parser Statement := do
  match ← peek with
  | .mark ";" => advance; return .other
  | .mark "\x7b" => g.block; return .other
  | .mark "@" => g.decoratedStatement alone
  | .word word true => g.wordStatement word alone
  | _ => g.plainStatement

/-! ## The whole grammar -/

/-- The rules for each part of the grammar, given readers for the parts inside it. -/
def rules (g : Grammar) : Grammar
  | .expression => g.readExpression
  | .assignment inChoice => g.readAssignment inChoice
  | .unary => g.readUnary
  | .operand => g.readOperand
  | .constructed => g.readConstructed
  | .pattern => g.readPattern
  | .statement alone => g.readStatement alone
  | .typeExpr => g.readType

/-- Readers for scripts whose parts are nested at most `depth` deep. -/
def toDepth : Nat → Grammar
  | 0 => fun _ => failure
  | depth + 1 => rules (toDepth depth)

end Grammar

/-! ## Modules -/

def Statement.directive? : Statement → Option String
  | .directive text => some text
  | _ => none

/-- Strings that stand alone in front of all else are directives. -/
def Module.ofStatements (statements : List Statement) : Module :=
  { directives := (statements.takeWhile (·.directive?.isSome)).filterMap Statement.directive?
    body := statements.dropWhile (·.directive?.isSome) }

def statementsFor (g : Grammar) : Nat → Parser (List Statement)
  | 0 => failure
  | fuel + 1 => do
      if (← Parser.peek) = .finish then return []
      let first ← g.statement
      return first :: (← statementsFor g fuel)

/-- A line at the very start that names the program to run the script with. -/
def skipProgramLine (cs : List Char) : List Char :=
  match cs with
  | '#' :: '!' :: rest => rest.dropWhile (!isLineEnd ·)
  | _ => cs

/-- The module that a text spells, with types or without; none when it spells none. A part starts
at most some twenty parts further out that start at the same character. -/
def parse? (typed : Bool) (source : String) : Option Module := do
  let cs := skipProgramLine source.toList
  let start ← Input.at? typed cs
  let reading := statementsFor (Grammar.toDepth (20 * (cs.length + 1))) (cs.length + 2)
  let (statements, _) ← ((reading start).run.run []).1
  return .ofStatements statements

end ComponentMarkup.Script
