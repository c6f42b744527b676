/-!
Single-quoted string literals: a backslash goes before the quote, the backslash and the dollar
sign, and line feeds and carriage returns are spelled out. Reading a written body back gives the
value it was written for.
-/

namespace ComponentMarkup.Text.Quoted

def encodeChar (c : Char) : List Char :=
  if c = '\\' then ['\\', '\\']
  else if c = '\'' then ['\\', '\'']
  else if c = '\n' then ['\\', 'n']
  else if c = '\r' then ['\\', 'r']
  else if c = '$' then ['\\', '$']
  else [c]

/-- The body of the literal, without the quotes around it. -/
def encode (cs : List Char) : List Char := cs.flatMap encodeChar

/-- The value of a body. A bare quote, a line break or a backslash at the end is no body. -/
def decode : List Char → Option (List Char)
  | [] => some []
  | ['\\'] => none
  | '\\' :: c :: rest =>
      let value := if c = 'n' then '\n' else if c = 'r' then '\r' else c
      (decode rest).map (value :: ·)
  | c :: rest =>
      if c = '\'' || c = '\n' || c = '\r' then none else (decode rest).map (c :: ·)

/-- A string literal that stands for the text. -/
def literal (s : String) : String := "'" ++ String.ofList (encode s.toList) ++ "'"

end ComponentMarkup.Text.Quoted
