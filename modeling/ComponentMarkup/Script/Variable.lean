import ComponentMarkup.Script.Expression

/-!
Declarations of variables.
-/

namespace ComponentMarkup.Script.Grammar
open ComponentMarkup.Script.Parser

/-- How variables are declared. -/
inductive VariableKind where
  | changing
  | fixed
  /-- Variables whose values are disposed of at the end of their block. -/
  | disposed
deriving DecidableEq

/-- A variable with what it is set to, if that is said. -/
structure Declarator where
  pattern : Pattern
  hasValue : Bool

def Pattern.isName : Pattern → Bool
  | .name _ => true
  | _ => false

/-- Whether a variable gets a value where it has to: one that cannot be set later, and one that is
taken apart. -/
def Declarator.isComplete (kind : VariableKind) (d : Declarator) : Bool :=
  d.hasValue || (kind = .changing && Pattern.isName d.pattern)

/-- Whether a variable can be declared in this way. What is disposed of is not taken apart. -/
def Declarator.fits (kind : VariableKind) (d : Declarator) : Bool :=
  kind != .disposed || Pattern.isName d.pattern

/-- A declarator. `inLoop` is the head of a loop, where no variable is promised to be set. -/
def declarator (g : Grammar) (inLoop : Bool) : Parser Declarator := do
  let pattern ← g.pattern
  if (← isTyped) && !inLoop && Pattern.isName pattern && !(← isBroken) then
    let _ ← takeMark "!"
  g.typeNote
  let hasValue ← takeMark "="
  if hasValue then
    let _ ← g.assignment
  return { pattern, hasValue }

def declaratorsFor (g : Grammar) (inLoop : Bool) : Nat → Parser (List Declarator)
  | 0 => failure
  | fuel + 1 => do
      let first ← g.declarator inLoop
      if ← takeMark "," then return first :: (← declaratorsFor g inLoop fuel)
      return [first]

def declarators (g : Grammar) (kind : VariableKind) (inLoop : Bool) : Parser (List Declarator) := do
  let found ← declaratorsFor g inLoop (← steps)
  must (found.all (Declarator.fits kind))
  return found

/-- Variables behind their keyword, up to the end of the statement. -/
def bindings (g : Grammar) (kind : VariableKind) : Parser Declaration := do
  let found ← g.declarators kind false
  must ((← context).isAmbient || found.all (Declarator.isComplete kind))
  endStatement
  return .bindings (found.map (·.pattern))

/-- Whether `using` declares a variable here: a name follows in its line. -/
def seesUsing : Parser Bool := do
  return (← isWord "using") && (← seesNext (do return !(← isBroken) && (← seesName)))

/-- Whether disposing of the variable declared here is waited for. -/
def seesAwaitUsing : Parser Bool := do
  return (← isWord "await") && (← seesNext (do return !(← isBroken) && (← seesUsing)))

/-- Takes the keyword of variables that are disposed of, if one is there. -/
def takeUsing : Parser Bool := do
  if ← seesUsing then advance; return true
  else if ← seesAwaitUsing then
    must (← context).awaits
    advance
    advance
    return true
  else return false

end ComponentMarkup.Script.Grammar
