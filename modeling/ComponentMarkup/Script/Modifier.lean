import ComponentMarkup.Script.Parser

/-!
Words in front of declarations, members and parameters that say more about them.
-/

namespace ComponentMarkup.Script

/-- Words that say who can reach something. -/
def accessWords : List String := ["public", "private", "protected"]

/-- Words that say more about what stands behind them, in whatever order. -/
def modifierWords : List String :=
  accessWords ++ ["abstract", "accessor", "async", "const", "declare", "default", "export", "in",
    "out", "override", "readonly", "static"]

/-- Whether a modifier fits beside others: each is said once, and only once who can reach
something. -/
def fitsBeside (seen : List String) (modifier : String) : Bool :=
  !seen.contains modifier &&
    !(accessWords.contains modifier && seen.any accessWords.contains)

namespace Parser

/-- Whether what a modifier belongs to goes on here. -/
def seesModified : Parser Bool := do
  match ← peek with
  | .word _ _ | .number | .string _ | .hashed _ => return true
  | .mark mark => return ["[", "\x7b", "*", "..."].contains mark
  | _ => return false

/-- Whether the token is one of these words and stands in front of something as a modifier. Only
`static` can be the last word of its line. -/
def seesModifier (words : List String) : Parser Bool := do
  if ← seesOneOf words then
    let crosses ← isWord "static"
    seesNext do return (crosses || !(← isBroken)) && (← seesModified)
  else return false

def modifiersFor (words : List String) (seen : List String) : Nat → Parser (List String)
  | 0 => failure
  | fuel + 1 => do
      if ← seesModifier words then
        if (← isWord "static") && (seen.contains "static" || (← seesNext (isMark "\x7b"))) then
          return seen
        let modifier ← anyName
        must (fitsBeside seen modifier)
        modifiersFor words (modifier :: seen) fuel
      else return seen

/-- Takes the modifiers among these words. -/
def modifiers (words : List String) : Parser (List String) := do
  modifiersFor words [] (← steps)

/-- Takes `get` or `set` where the name of a property follows, in whatever line. -/
def accessorWord? : Parser (Option String) := do
  if ((← isWord "get") || (← isWord "set")) && (← seesNext seesModified) then
    return some (← anyName)
  else return none

end Parser
end ComponentMarkup.Script
