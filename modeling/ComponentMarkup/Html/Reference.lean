import ComponentMarkup.Html.CharacterName

/-!
Character references in markup, by number and by name.
-/

namespace ComponentMarkup.Html

/-- What numbers from 128 to 159 stand for. -/
def controlReferences : List Nat :=
  [0x20AC, 0x81, 0x201A, 0x0192, 0x201E, 0x2026, 0x2020, 0x2021, 0x02C6, 0x2030, 0x0160, 0x2039,
    0x0152, 0x8D, 0x017D, 0x8F, 0x90, 0x2018, 0x2019, 0x201C, 0x201D, 0x2022, 0x2013, 0x2014,
    0x02DC, 0x2122, 0x0161, 0x203A, 0x0153, 0x9D, 0x017E, 0x0178]

/-- The character with a number; zero, halves of surrogate pairs and numbers past the last
character stand for the replacement character. -/
def numberedChar (n : Nat) : Char :=
  if n = 0 || n > 0x10FFFF || (0xD800 ≤ n && n < 0xE000) then '\ufffd'
  else if 0x80 ≤ n && n < 0xA0 then Char.ofNat (controlReferences.getD (n - 0x80) n)
  else Char.ofNat n

def isHexDigit (c : Char) : Bool :=
  c.isDigit || ('a' ≤ c && c ≤ 'f') || ('A' ≤ c && c ≤ 'F')

def hexDigitValue (c : Char) : Nat :=
  if c.isDigit then c.toNat - 48 else if c < 'a' then c.toNat - 55 else c.toNat - 87

def skipSemicolon : List Char → List Char
  | ';' :: rest => rest
  | cs => cs

/-- Reads digits of a base; without any, the ampersand stood for itself. -/
def numericReference? (isDigit : Char → Bool) (base : Nat) (cs : List Char) :
    Option (List Char × List Char) :=
  let digits := cs.takeWhile isDigit
  if digits.isEmpty then none
  else
    some ([numberedChar (digits.foldl (fun n c => n * base + hexDigitValue c) 0)],
      skipSemicolon (cs.dropWhile isDigit))

/-- The longest of the names that a text starts with. -/
def longestLead (cs : List Char) (names : List String) : Option String :=
  (names.filter fun name => name.toList.isPrefixOf cs).foldl
    (fun longest name => if longest.any (name.length ≤ ·.length) then longest else some name) none

/-- A reference whose name has no semicolon behind it. In an attribute it is none when the text goes
on. -/
def looseReference? (inAttribute : Bool) (cs : List Char) : Option (List Char × List Char) :=
  match longestLead cs looseNames with
  | none => none
  | some name =>
      let rest := cs.drop name.length
      let goesOn := rest.head?.any fun next => next = '=' || next.isAlphanum
      if inAttribute && goesOn then none
      else (namedCharacters? name).map fun value => (value, rest)

def namedReference? (inAttribute : Bool) (cs : List Char) : Option (List Char × List Char) :=
  let name := String.ofList (cs.takeWhile Char.isAlphanum)
  match cs.dropWhile Char.isAlphanum, namedCharacters? name with
  | ';' :: rest, some value => some (value, rest)
  | _, _ => looseReference? inAttribute cs

/-- Reads what follows an ampersand. -/
def reference? (inAttribute : Bool) (cs : List Char) : Option (List Char × List Char) :=
  match cs with
  | '#' :: 'x' :: rest | '#' :: 'X' :: rest => numericReference? isHexDigit 16 rest
  | '#' :: rest => numericReference? Char.isDigit 10 rest
  | _ => namedReference? inAttribute cs

/-- Whether a reference by number, behind its `#`, ends in a semicolon. -/
def hasSemicolon (cs : List Char) : Bool :=
  match cs with
  | 'x' :: rest | 'X' :: rest => (rest.dropWhile isHexDigit).head? == some ';'
  | _ => (cs.dropWhile Char.isDigit).head? == some ';'

/-- Replaces the references in a text. Every step takes a character, so `fuel` need not exceed the
length of the text. -/
def dereference (inAttribute : Bool) : Nat → List Char → List Char
  | 0, cs => cs
  | _, [] => []
  | fuel + 1, c :: rest =>
      if c = '&' then
        match reference? inAttribute rest with
        | some (value, rest) => value ++ dereference inAttribute fuel rest
        | none => c :: dereference inAttribute fuel rest
      else c :: dereference inAttribute fuel rest

end ComponentMarkup.Html
