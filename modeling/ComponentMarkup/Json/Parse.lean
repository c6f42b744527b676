import ComponentMarkup.Json.Basic

/-!
Reading JSON, strictly by its grammar and with nothing but blanks around the value.
-/

namespace ComponentMarkup.Json

def skipBlanks (cs : List Char) : List Char :=
  cs.dropWhile fun c => c = ' ' || c = '\n' || c = '\t' || c = '\r'

/-! ## Strings -/

def hexValue? (c : Char) : Option Nat :=
  if c.isDigit then some (c.toNat - 48)
  else if 'a' ≤ c && c ≤ 'f' then some (c.toNat - 87)
  else if 'A' ≤ c && c ≤ 'F' then some (c.toNat - 55)
  else none

def hexUnit? (a b c d : Char) : Option Nat := do
  return ((← hexValue? a) * 16 + (← hexValue? b)) * 256 + (← hexValue? c) * 16 + (← hexValue? d)

def unescape? (c : Char) : Option Char :=
  if c = '"' || c = '\\' || c = '/' then some c
  else if c = 'b' then some '\x08'
  else if c = 'f' then some '\x0c'
  else if c = 'n' then some '\n'
  else if c = 'r' then some '\r'
  else if c = 't' then some '\t'
  else none

def isHighSurrogate (n : Nat) : Bool := 0xD800 ≤ n && n < 0xDC00

def isLowSurrogate (n : Nat) : Bool := 0xDC00 ≤ n && n < 0xE000

/-- The contents of a string and what follows it; `none` for the contents of a string that has no
text. -/
abbrev StringRead := Option (Option (List Char) × List Char)

/-- Adds a character in front, unless half a pair before it was left alone. -/
def StringRead.push (high : Option Nat) (c : Char) (read : StringRead) : StringRead :=
  read.map fun (contents, rest) =>
    (if high.isSome then none else contents.map (c :: ·), rest)

/-- Reads up to the closing quote. `high` is the first half of a surrogate pair just read. -/
def readString (high : Option Nat) : List Char → StringRead
  | [] => none
  | '"' :: rest => some (if high.isSome then none else some [], rest)
  | '\\' :: 'u' :: a :: b :: c :: d :: rest =>
      match hexUnit? a b c d with
      | none => none
      | some n =>
          if isHighSurrogate n then (readString (some n) rest).map fun (contents, rest) =>
            (if high.isSome then none else contents, rest)
          else if isLowSurrogate n then
            match high with
            | some first =>
                (readString none rest).push none
                  (Char.ofNat (0x10000 + (first - 0xD800) * 0x400 + (n - 0xDC00)))
            | none => (readString none rest).map fun (_, rest) => (none, rest)
          else (readString none rest).push high (Char.ofNat n)
  | '\\' :: e :: rest =>
      match unescape? e with
      | none => none
      | some c => (readString none rest).push high c
  | c :: rest => if c.toNat < 0x20 then none else (readString none rest).push high c

/-! ## Numbers -/

def takeDigits? (cs : List Char) : Option (List Char × List Char) :=
  if (cs.takeWhile Char.isDigit).isEmpty then none
  else some (cs.takeWhile Char.isDigit, cs.dropWhile Char.isDigit)

def readWhole? (cs : List Char) : Option (List Char × List Char) :=
  match cs with
  | '0' :: rest => some (['0'], rest)
  | _ => takeDigits? cs

def readFraction? (cs : List Char) : Option (List Char × List Char) :=
  match cs with
  | '.' :: rest => (takeDigits? rest).map fun (digits, rest) => ('.' :: digits, rest)
  | _ => some ([], cs)

def readExponent? (cs : List Char) : Option (List Char × List Char) :=
  match cs with
  | e :: rest =>
      if e = 'e' || e = 'E' then
        let (sign, rest) : List Char × List Char := match rest with
          | '+' :: rest => (['+'], rest)
          | '-' :: rest => (['-'], rest)
          | _ => ([], rest)
        (takeDigits? rest).map fun (digits, rest) => (e :: sign ++ digits, rest)
      else some ([], cs)
  | [] => some ([], cs)

def readNumber? (cs : List Char) : Option (List Char × List Char) := do
  let (sign, cs) : List Char × List Char := match cs with
    | '-' :: rest => (['-'], rest)
    | _ => ([], cs)
  let (whole, cs) ← readWhole? cs
  let (fraction, cs) ← readFraction? cs
  let (exponent, cs) ← readExponent? cs
  return (sign ++ whole ++ fraction ++ exponent, cs)

/-! ## Values -/

def afterWord? (word : List Char) (value : Json) (cs : List Char) : Option (Json × List Char) :=
  if cs.take word.length == word then some (value, cs.drop word.length) else none

mutual

/-- Reads a value from its first character on. Each value inside another starts further on, so
`fuel` need not exceed the length of the text. -/
def readValue : Nat → List Char → Option (Json × List Char)
  | 0, _ => none
  | fuel + 1, cs =>
      match cs with
      | [] => none
      | '"' :: rest => (readString none rest).map fun (contents, rest) =>
          (.string (contents.map String.ofList), rest)
      | '[' :: rest =>
          match skipBlanks rest with
          | ']' :: rest => some (.array [], rest)
          | cs => (readItems fuel cs).map fun (items, rest) => (.array items, rest)
      | '\x7b' :: rest =>
          match skipBlanks rest with
          | '\x7d' :: rest => some (.object [], rest)
          | cs => (readMembers fuel cs).map fun (members, rest) => (.object members, rest)
      | 'n' :: _ => afterWord? "null".toList .null cs
      | 't' :: _ => afterWord? "true".toList (.bool true) cs
      | 'f' :: _ => afterWord? "false".toList (.bool false) cs
      | _ => (readNumber? cs).map fun (spelling, rest) => (.number (String.ofList spelling), rest)

def readItems : Nat → List Char → Option (List Json × List Char)
  | 0, _ => none
  | fuel + 1, cs =>
      match readValue fuel cs with
      | none => none
      | some (item, rest) =>
          match skipBlanks rest with
          | ',' :: rest => (readItems fuel (skipBlanks rest)).map fun (items, rest) =>
              (item :: items, rest)
          | ']' :: rest => some ([item], rest)
          | _ => none

def readMembers : Nat → List Char → Option (List (Option String × Json) × List Char)
  | 0, _ => none
  | fuel + 1, cs =>
      match cs with
      | '"' :: rest =>
          match readString none rest with
          | none => none
          | some (key, rest) =>
              match skipBlanks rest with
              | ':' :: rest =>
                  match readValue fuel (skipBlanks rest) with
                  | none => none
                  | some (value, rest) =>
                      let member := (key.map String.ofList, value)
                      match skipBlanks rest with
                      | ',' :: rest => (readMembers fuel (skipBlanks rest)).map
                          fun (members, rest) => (member :: members, rest)
                      | '\x7d' :: rest => some ([member], rest)
                      | _ => none
              | _ => none
      | _ => none

end

/-- The value that a text spells. -/
def parse? (s : String) : Option Json :=
  let cs := s.toList
  match readValue (2 * cs.length + 2) (skipBlanks cs) with
  | some (value, rest) => if (skipBlanks rest).isEmpty then some value else none
  | none => none

/-! ## Records -/

/-- The value of a member, by its name. -/
def member? (j : Json) (name : String) : Option Json :=
  match j with
  | .object members => (members.find? (·.1 == some name)).map Prod.snd
  | _ => none

def string? : Json → Option String
  | .string value => value
  | _ => none

def bool? : Json → Option Bool
  | .bool value => some value
  | _ => none

def items? : Json → Option (List Json)
  | .array items => some items
  | _ => none

/-- The fields of a record, given by name in an object or by place in an array. Other members are
skipped; a field given twice, or more items than fields, is no record. -/
def fields? (names : List String) : Json → Option (List (Option Json))
  | .object members =>
      if members.all fun (key, _) => key.isSome &&
          (!names.any (some · == key) || (members.filter (·.1 == key)).length = 1) then
        some (names.map fun name => (members.find? (·.1 == some name)).map Prod.snd)
      else none
  | .array items =>
      if items.length ≤ names.length then
        some (items.map some ++ List.replicate (names.length - items.length) none)
      else none
  | _ => none

/-- Reads a field that may be absent. -/
def fieldOr? {α : Type} (default : α) (read : Json → Option α) : Option Json → Option α
  | none => some default
  | some j => read j

/-- Reads every item of an array. -/
def listOf? {α : Type} (read : Json → Option α) (j : Json) : Option (List α) := do
  (← j.items?).mapM read

end ComponentMarkup.Json
