import ComponentMarkup.Script.Letter
import ComponentMarkup.Text.Cut

/-!
Scripts as tokens. What a slash or a backquote starts depends on what stands before it, so regular
expressions and templates are read on request.
-/

namespace ComponentMarkup.Script

inductive Token where
  /-- A name or keyword; a keyword is `plain`, without escapes. -/
  | word (text : String) (plain : Bool)
  /-- A private name, behind its `#`. -/
  | hashed (text : String)
  | mark (text : String)
  | number
  /-- A string, as it is spelled between its quotes. -/
  | string (text : String)
  | finish
  /-- Characters that are no token. -/
  | unreadable
deriving DecidableEq, Repr

/-! ## Blanks and comments -/

def isLineEnd (c : Char) : Bool := c = '\n' || c = '\r' || c = '\u2028' || c = '\u2029'

def isScriptBlank (c : Char) : Bool :=
  c = ' ' || c = '\t' || c = '\x0b' || c = '\x0c' || c = '\u0085' || c = '\u00a0' || c = '\ufeff' ||
    c = '\u1680' || ('\u2000' ≤ c && c ≤ '\u200b') || c = '\u202f' || c = '\u205f' || c = '\u3000'

/-- What stands between two tokens at a time. -/
inductive Gap where
  | none
  | line
  | block

/-- Skips blanks and comments. Gives whether a line ends among them, or none when a comment does
not end. -/
def skipGap (gap : Gap) (broken : Bool) : List Char → Option (Bool × List Char)
  | [] =>
      match gap with
      | .block => none
      | _ => some (broken, [])
  | '*' :: '/' :: rest =>
      match gap with
      | .block => skipGap .none broken rest
      | .line => skipGap .line broken rest
      | .none => some (broken, '*' :: '/' :: rest)
  | '/' :: '/' :: rest =>
      match gap with
      | .none => skipGap .line broken rest
      | _ => skipGap gap broken ('/' :: rest)
  | '/' :: '*' :: rest =>
      match gap with
      | .none => skipGap .block broken rest
      | _ => skipGap gap broken ('*' :: rest)
  | c :: rest =>
      match gap with
      | .none =>
          if isLineEnd c then skipGap .none true rest
          else if isScriptBlank c then skipGap .none broken rest
          else some (broken, c :: rest)
      | .line => if isLineEnd c then skipGap .none true rest else skipGap .line broken rest
      | .block => skipGap .block (broken || isLineEnd c) rest

/-! ## Names -/

def hexDigit? (c : Char) : Option Nat :=
  if c.isDigit then some (c.toNat - 48)
  else if 'a' ≤ c && c ≤ 'f' then some (c.toNat - 87)
  else if 'A' ≤ c && c ≤ 'F' then some (c.toNat - 55)
  else none

def hexNumber (cs : List Char) : Nat := cs.foldl (fun n c => n * 16 + (hexDigit? c).getD 0) 0

def isHex (c : Char) : Bool := (hexDigit? c).isSome

/-- Reads the number of a character behind `\u`. -/
def escapedNumber? (cs : List Char) : Option (Nat × List Char) :=
  match cs with
  | '\x7b' :: rest =>
      match rest.takeWhile isHex, rest.dropWhile isHex with
      | [], _ => none
      | digits, '\x7d' :: rest =>
          if hexNumber digits ≤ 0x10FFFF then some (hexNumber digits, rest) else none
      | _, _ => none
  | a :: b :: c :: d :: rest =>
      if [a, b, c, d].all isHex then some (hexNumber [a, b, c, d], rest) else none
  | _ => none

/-- The rest of a name; `escaped` says whether an escape was met. Every character of the name takes
one of the text, so `fuel` need not exceed the length of the text. -/
def nameRest (escaped : Bool) : Nat → List Char → Option (List Char × Bool × List Char)
  | 0, _ => none
  | _ + 1, [] => some ([], escaped, [])
  | fuel + 1, '\\' :: 'u' :: rest =>
      match escapedNumber? rest with
      | none => none
      | some (n, rest) =>
          if continuesName (Char.ofNat n) then
            (nameRest true fuel rest).map fun (cs, escaped, rest) =>
              (Char.ofNat n :: cs, escaped, rest)
          else none
  | fuel + 1, c :: rest =>
      if continuesName c then
        (nameRest escaped fuel rest).map fun (cs, escaped, rest) => (c :: cs, escaped, rest)
      else some ([], escaped, c :: rest)

/-- Whether a name starts here. -/
def opensName (cs : List Char) : Bool :=
  match cs with
  | '\\' :: 'u' :: rest =>
      match escapedNumber? rest with
      | some (n, _) => startsName (Char.ofNat n)
      | none => false
  | c :: _ => startsName c
  | [] => false

def readName? (cs : List Char) : Option (String × Bool × List Char) :=
  if opensName cs then
    (nameRest false (cs.length + 1) cs).map fun (name, escaped, rest) =>
      (String.ofList name, !escaped, rest)
  else none

/-! ## Numbers -/

/-- Digits, with single underscores between them. -/
def readDigits? (isDigit : Char → Bool) (cs : List Char) : Option (List Char) :=
  let run := cs.takeWhile fun c => isDigit c || c = '_'
  let doubled := (run.zip (run.drop 1)).any fun (a, b) => a = '_' && b = '_'
  if run.isEmpty || run.head? == some '_' || run.getLast? == some '_' || doubled then none
  else some (cs.drop run.length)

/-- A number does not run into a name or another number. -/
def endNumber (cs : List Char) : Token × List Char :=
  match cs with
  | c :: _ => if startsName c || c = '\\' || c.isDigit then (.unreadable, cs) else (.number, cs)
  | [] => (.number, [])

def skipSuffix : List Char → List Char
  | 'n' :: rest => rest
  | cs => cs

def readBased (isDigit : Char → Bool) (cs : List Char) : Token × List Char :=
  match readDigits? isDigit cs with
  | some rest => endNumber (skipSuffix rest)
  | none => (.unreadable, cs)

def readExponent (cs : List Char) : Token × List Char :=
  match cs with
  | e :: rest =>
      if e = 'e' || e = 'E' then
        let digits := match rest with
          | '+' :: rest | '-' :: rest => rest
          | _ => rest
        match readDigits? Char.isDigit digits with
        | some rest => endNumber rest
        | none => (.unreadable, cs)
      else endNumber cs
  | [] => (.number, [])

def readFraction (cs : List Char) : Token × List Char :=
  match readDigits? Char.isDigit cs with
  | some rest => readExponent rest
  | none => if cs.head?.any (· = '_') then (.unreadable, cs) else readExponent cs

def readDecimal (cs : List Char) : Token × List Char :=
  match readDigits? Char.isDigit cs with
  | none => (.unreadable, cs)
  | some ('.' :: rest) => readFraction rest
  | some ('n' :: rest) => endNumber rest
  | some rest => readExponent rest

/-- A number with a zero in front of its digits is octal as far as they allow it, and only a
decimal one goes on behind a point. -/
def readZeros (cs : List Char) : Token × List Char :=
  let digits := cs.takeWhile Char.isDigit
  let rest := cs.drop digits.length
  if digits.all (· ≤ '7') then endNumber rest
  else match rest with
    | '.' :: rest => readFraction rest
    | _ => readExponent rest

def readNumber (cs : List Char) : Token × List Char :=
  match cs with
  | '0' :: x :: rest =>
      if x = 'x' || x = 'X' then readBased isHex rest
      else if x = 'o' || x = 'O' then readBased (fun c => '0' ≤ c && c ≤ '7') rest
      else if x = 'b' || x = 'B' then readBased (fun c => c = '0' || c = '1') rest
      else if x = '_' then (.unreadable, cs)
      else if x.isDigit then readZeros cs
      else readDecimal cs
  | '.' :: rest => readFraction rest
  | _ => readDecimal cs

/-! ## Strings -/

/-- What follows an escape behind its backslash; none for an escape that is not allowed. Digits
escape themselves or a character with that number. -/
def afterEscape? (cs : List Char) : Option (List Char) :=
  match cs with
  | [] => none
  | 'u' :: rest => (escapedNumber? rest).map Prod.snd
  | 'x' :: a :: b :: rest => if isHex a && isHex b then some rest else none
  | 'x' :: _ => none
  | '\r' :: '\n' :: rest => some rest
  | _ :: rest => some rest

/-- Reads a string up to its closing quote. Every step takes a character, so `fuel` need not exceed
the length of the text. -/
def readString (quote : Char) : Nat → List Char → Option (List Char)
  | 0, _ => none
  | _ + 1, [] => none
  | fuel + 1, c :: rest =>
      if c = quote then some rest
      else if c = '\n' || c = '\r' then none
      else if c = '\\' then (afterEscape? rest).bind (readString quote fuel)
      else readString quote fuel rest

/-- The halves of characters outside the basic plane that escapes in a string spell; all else is
one character, and stands as none. -/
def escapedHalves : Nat → List Char → List (Option Nat)
  | 0, _ => []
  | _ + 1, [] => []
  | fuel + 1, '\\' :: 'u' :: rest =>
      match escapedNumber? rest with
      | some (n, rest) =>
          (if 0xD800 ≤ n && n ≤ 0xDFFF then some n else none) :: escapedHalves fuel rest
      | none => none :: escapedHalves fuel rest
  | fuel + 1, '\\' :: _ :: rest => none :: escapedHalves fuel rest
  | fuel + 1, _ :: rest => none :: escapedHalves fuel rest

/-- Whether every first half has a second one behind it, and no second half stands alone. -/
def arePaired : List (Option Nat) → Bool
  | [] => true
  | none :: rest => arePaired rest
  | some first :: some second :: rest =>
      first ≤ 0xDBFF && 0xDC00 ≤ second && arePaired rest
  | some _ :: _ => false

/-- Whether a string, as it is spelled between its quotes, is a text of whole characters. -/
def isWhole (text : String) : Bool := arePaired (escapedHalves (text.length + 1) text.toList)

/-! ## Marks -/

/-- Longer marks stand before the marks they start with. -/
def marks : List String :=
  [">>>=", "...", "===", "!==", "**=", "<<=", ">>=", ">>>", "&&=", "||=", "??=", "=>", "==", "!=",
    "<=", ">=", "&&", "||", "??", "?.", "++", "--", "+=", "-=", "*=", "/=", "%=", "&=", "|=", "^=",
    "<<", ">>", "**", "\x7b", "\x7d", "(", ")", "[", "]", ";", ",", "<", ">", "+", "-", "*", "/",
    "%", "&", "|", "^", "!", "~", "?", ":", "=", ".", "@", "\x60"]

/-- A question mark before a decimal fraction stands alone. -/
def readMark (cs : List Char) : Token × List Char :=
  match cs with
  | '?' :: '.' :: d :: rest =>
      if d.isDigit then (.mark "?", '.' :: d :: rest) else (.mark "?.", d :: rest)
  | _ =>
      let leading := fun (mark : String) =>
        (Text.afterLead? mark.toList cs).map fun rest => (mark, rest)
      match marks.findSome? leading with
      | some (mark, rest) => (.mark mark, rest)
      | none => (.unreadable, cs)

/-! ## Tokens -/

/-- The token that starts here, and what follows it. -/
def readToken (cs : List Char) : Token × List Char :=
  match cs with
  | [] => (.finish, [])
  | c :: rest =>
      if opensName cs then
        match readName? cs with
        | some (name, plain, rest) => (.word name plain, rest)
        | none => (.unreadable, cs)
      else if c = '#' then
        match readName? rest with
        | some (name, _, rest) => (.hashed name, rest)
        | none => (.unreadable, cs)
      else if c.isDigit || (c = '.' && rest.head?.any Char.isDigit) then readNumber cs
      else if c = '"' || c = '\'' then
        match readString c (rest.length + 1) rest with
        | some after =>
            (.string (String.ofList (rest.take (rest.length - after.length - 1))), after)
        | none => (.unreadable, cs)
      else readMark cs

/-! ## Regular expressions and templates -/

/-- Reads a regular expression up to its closing slash, behind the opening one. `inClass` is inside
square brackets, where a slash stands for itself. -/
def readRegexBody (inClass : Bool) : List Char → Option (List Char)
  | [] => none
  | '\\' :: c :: rest => if isLineEnd c then none else readRegexBody inClass rest
  | c :: rest =>
      if isLineEnd c then none
      else if c = '[' then readRegexBody true rest
      else if c = ']' then readRegexBody false rest
      else if c = '/' && !inClass then some rest
      else readRegexBody inClass rest

def regexFlags : List Char := ['d', 'g', 'i', 'm', 's', 'u', 'v', 'y']

/-- Whether flags are known, each set once, and only one of the two that choose how characters
are told apart. -/
def areFlags (flags : List Char) : Bool :=
  flags.all regexFlags.contains && regexFlags.all (fun flag => flags.count flag ≤ 1) &&
    !(flags.contains 'u' && flags.contains 'v')

/-- Reads a regular expression with its flags, behind the opening slash. -/
def readRegex (cs : List Char) : Option (List Char) := do
  let rest ← readRegexBody false cs
  let flags := rest.takeWhile continuesName
  if areFlags flags then some (rest.drop flags.length) else none

/-- The end of a piece of a template; `sound` says whether its escapes are all allowed. -/
inductive Piece where
  | closed (sound : Bool) (rest : List Char)
  | hole (sound : Bool) (rest : List Char)

/-- Whether an escape in a template is allowed, behind its backslash. Digits other than a single
zero escape nothing there. -/
def isTemplateEscape (cs : List Char) : Bool :=
  match cs with
  | '0' :: rest => !rest.head?.any Char.isDigit
  | c :: _ => !c.isDigit && (afterEscape? cs).isSome
  | [] => false

/-- Reads a template up to its end or to the next expression in it. -/
def readPiece (sound : Bool) : List Char → Option Piece
  | [] => none
  | '\x60' :: rest => some (.closed sound rest)
  | '$' :: '\x7b' :: rest => some (.hole sound rest)
  | '\\' :: c :: rest => readPiece (sound && isTemplateEscape (c :: rest)) rest
  | _ :: rest => readPiece sound rest

end ComponentMarkup.Script
