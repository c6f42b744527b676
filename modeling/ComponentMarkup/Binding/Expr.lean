import ComponentMarkup.Text.Blank
import ComponentMarkup.Text.Cut

/-!
Expressions between the markers of a binding.
-/

namespace ComponentMarkup.Binding

def openMarker : List Char := ['\x7b', '\x7b']

def closeMarker : List Char := ['\x7d', '\x7d']

/-- Takes the one-time modifier `| final` off a trimmed expression. A second bar before it makes
it an operand of `||`, which stays. -/
def splitFinal (text : List Char) : List Char × Bool :=
  match Text.afterLead? "final".toList.reverse text.reverse with
  | none => (text, false)
  | some head =>
      match head.dropWhile Text.isBlank with
      | '|' :: '|' :: _ => (text, false)
      | '|' :: rest => ((rest.dropWhile Text.isBlank).reverse, true)
      | _ => (text, false)

structure Expr where
  /-- The expression, trimmed and without its modifier. -/
  text : String
  /-- What stands between the markers. -/
  raw : String
  /-- The byte where the opening marker starts. -/
  start : Nat
  /-- The byte past the closing marker. -/
  stop : Nat
  isFinal : Bool
deriving DecidableEq, Inhabited, Repr

namespace Expr

def ofRaw (raw : List Char) (start stop : Nat) : Expr :=
  let (text, isFinal) := splitFinal (Text.trim raw)
  { text := String.ofList text, raw := String.ofList raw, start, stop, isFinal }

/-- An expression that no marker encloses. -/
def ofText (text : String) : Expr := ofRaw text.toList 0 0

/-- The marked form the expression was read from. -/
def source (e : Expr) : List Char := openMarker ++ e.raw.toList ++ closeMarker

end Expr
end ComponentMarkup.Binding
