/-!
Escaping text and attribute values for markup. The ampersand is escaped along with the characters
that would end the text or the quoted value.
-/

namespace ComponentMarkup.Text

def escapeTextChar (c : Char) : List Char :=
  if c = '&' then "&amp;".toList
  else if c = '<' then "&lt;".toList
  else if c = '>' then "&gt;".toList
  else [c]

def escapeAttributeChar (c : Char) : List Char :=
  if c = '&' then "&amp;".toList
  else if c = '"' then "&quot;".toList
  else [c]

def escapedText (s : String) : String := String.ofList (s.toList.flatMap escapeTextChar)

def escapedAttribute (s : String) : String := String.ofList (s.toList.flatMap escapeAttributeChar)

end ComponentMarkup.Text
