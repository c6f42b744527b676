import ComponentMarkup.Text.Uppercase

/-!
Letter case: names are compared and stored in ASCII lower case, and hyphenated attribute names
become camel-cased property names.
-/

namespace ComponentMarkup.Text

/-- ASCII capitals become small letters and all else stays. -/
def lowered (s : String) : String := String.ofList (s.toList.map Char.toLower)

/-- Equality up to the case of ASCII letters. -/
def sameLetters (a b : String) : Bool := lowered a == lowered b

/-- Drops hyphens and raises the character after a run of them; `raise` says one was just met. -/
def camelFrom (raise : Bool) : List Char → List Char
  | [] => []
  | c :: rest =>
      if c = '-' then camelFrom true rest
      else (if raise then uppercase c else [c]) ++ camelFrom false rest

def camelCased (s : String) : String := String.ofList (camelFrom false s.toList)

end ComponentMarkup.Text
