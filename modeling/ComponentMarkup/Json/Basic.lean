/-!
JSON values and how they are written.
-/

namespace ComponentMarkup

/-- A value as it was read: numbers by their spelling, objects with every member in order. A string
is none when its escapes leave half of a surrogate pair, which is no text. -/
inductive Json where
  | null
  | bool (value : Bool)
  | number (spelling : String)
  | string (value : Option String)
  | array (items : List Json)
  | object (members : List (Option String × Json))
deriving Inhabited

namespace Json

def text (s : String) : Json := .string (some s)

def nat (n : Nat) : Json := .number (toString n)

/-- An absent value is written as null. -/
def option {α : Type} (f : α → Json) : Option α → Json
  | none => .null
  | some a => f a

def list {α : Type} (f : α → Json) (xs : List α) : Json := .array (xs.map f)

def record (members : List (String × Json)) : Json :=
  .object (members.map fun (key, value) => (some key, value))

/-! ## Writing -/

def hexDigit (n : Nat) : Char := if n < 10 then Char.ofNat (48 + n) else Char.ofNat (87 + n)

def escapeChar (c : Char) : List Char :=
  if c = '"' then ['\\', '"']
  else if c = '\\' then ['\\', '\\']
  else if c = '\n' then ['\\', 'n']
  else if c = '\r' then ['\\', 'r']
  else if c = '\t' then ['\\', 't']
  else if c = '\x08' then ['\\', 'b']
  else if c = '\x0c' then ['\\', 'f']
  else if c.toNat < 0x20 then
    ['\\', 'u', '0', '0', hexDigit (c.toNat / 16), hexDigit (c.toNat % 16)]
  else [c]

def quote (s : String) : String := "\"" ++ String.ofList (s.toList.flatMap escapeChar) ++ "\""

mutual

/-- The value on one line without blanks. -/
def write : Json → String
  | .null => "null"
  | .bool value => if value then "true" else "false"
  | .number spelling => spelling
  | .string none => "null"
  | .string (some s) => quote s
  | .array items => "[" ++ writeItems items ++ "]"
  | .object members => "\x7b" ++ writeMembers members ++ "\x7d"

def writeItems : List Json → String
  | [] => ""
  | [item] => write item
  | item :: rest => write item ++ "," ++ writeItems rest

def writeMembers : List (Option String × Json) → String
  | [] => ""
  | [(key, value)] => quote (key.getD "") ++ ":" ++ write value
  | (key, value) :: rest => quote (key.getD "") ++ ":" ++ write value ++ "," ++ writeMembers rest

end

end Json
end ComponentMarkup
