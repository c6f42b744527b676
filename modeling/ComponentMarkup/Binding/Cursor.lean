import ComponentMarkup.Binding.Scan

/-!
Reading the bindings of a text one at a time.
-/

namespace ComponentMarkup.Binding

/-- Where a cursor stands. -/
inductive Place where
  | start
  | binding (before : String) (expr : Expr)
  | done (tail : String)
deriving DecidableEq, Inhabited, Repr

structure Cursor where
  text : String
  rest : List Char
  /-- The byte at which `rest` starts. -/
  offset : Nat
  place : Place

/-- A question asked where it has no answer. -/
inductive Misuse where
  | exprBeforeAdvance
  | exprAfterLast
  | textBeforeAdvance
deriving DecidableEq, Repr

def Misuse.message : Misuse → String
  | .exprBeforeAdvance => "invalid scanner state: current_expr called before advance"
  | .exprAfterLast => "invalid scanner state: current_expr called after the last binding"
  | .textBeforeAdvance => "invalid scanner state: preceding_text called before advance"

namespace Cursor

def new (text : String) : Cursor := { text, rest := text.toList, offset := 0, place := .start }

def reset (c : Cursor) : Cursor := new c.text

/-- Moves to the next binding, or past the last one for good. -/
def advance (c : Cursor) : Cursor :=
  match c.place with
  | .done _ => c
  | _ =>
      match next? c.rest with
      | some hit =>
          { c with
            rest := hit.rest
            offset := c.offset + hit.closing
            place := .binding (String.ofList hit.before) (hit.expr c.offset) }
      | none =>
          { c with
            rest := []
            offset := c.offset + Text.byteLength c.rest
            place := .done (String.ofList c.rest) }

def onBinding (c : Cursor) : Bool :=
  match c.place with
  | .binding .. => true
  | _ => false

def expr (c : Cursor) : Except Misuse Expr :=
  match c.place with
  | .start => .error .exprBeforeAdvance
  | .binding _ expr => .ok expr
  | .done _ => .error .exprAfterLast

/-- The literal text before the current binding, or the tail after the last one. -/
def literal (c : Cursor) : Except Misuse String :=
  match c.place with
  | .start => .error .textBeforeAdvance
  | .binding before _ => .ok before
  | .done tail => .ok tail

theorem advance_length_lt {c : Cursor} {before : String} {expr : Expr}
    (hit : c.advance.place = .binding before expr) : c.advance.rest.length < c.rest.length := by
  unfold advance at hit ⊢
  split at hit
  · next atEnd => simp [atEnd] at hit
  · next running =>
      split at hit
      · next found => simpa [found] using length_lt_of_next? found
      · simp at hit

/-- The bindings after the place of the cursor, and the tail after them. -/
def remaining (c : Cursor) : List (String × Expr) × String :=
  match _hit : c.advance.place with
  | .binding before expr =>
      let (more, tail) := c.advance.remaining
      ((before, expr) :: more, tail)
  | .done tail => ([], tail)
  | .start => ([], "")
termination_by c.rest.length
decreasing_by exact advance_length_lt ‹_›

/-- Takes the current binding and all after it, and leaves the cursor past the last one. -/
def collect (c : Cursor) : Segments × Cursor :=
  let current := match c.place with
    | .binding before expr => [(before, expr)]
    | _ => []
  let (more, tail) := c.remaining
  ({ bound := current ++ more, tail },
    { c with
      rest := []
      offset := c.offset + Text.byteLength c.rest
      place := .done tail })

end Cursor
end ComponentMarkup.Binding
