/-!
Places in a source file.
-/

namespace ComponentMarkup

/-- Line and column count from one and columns count bytes; `0:0` is no place at all. -/
structure Position where
  line : Nat := 0
  column : Nat := 0
deriving DecidableEq, Inhabited, Repr

end ComponentMarkup
