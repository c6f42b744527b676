import ComponentMarkup.Binding.Expr

/-!
Splitting text at its bindings. An opening marker and the first closing marker after it enclose an
expression; an opening marker that is never closed is literal text.
-/

namespace ComponentMarkup.Binding

/-- A found binding: the literal text before it, what it encloses and what follows it. -/
structure Hit where
  before : List Char
  body : List Char
  rest : List Char

def next? (cs : List Char) : Option Hit := do
  let (before, tail) ← Text.cutAt openMarker cs
  let (body, rest) ← Text.cutAt closeMarker tail
  return { before, body, rest }

theorem next?_eq_some {cs : List Char} {hit : Hit} : next? cs = some hit ↔
    ∃ tail, Text.cutAt openMarker cs = some (hit.before, tail) ∧
      Text.cutAt closeMarker tail = some (hit.body, hit.rest) := by
  obtain ⟨before, body, rest⟩ := hit
  simp only [next?, Option.bind_eq_bind, Option.bind_eq_some_iff, Option.pure_def,
    Option.some.injEq, Hit.mk.injEq, Prod.exists]
  constructor
  · rintro ⟨_, tail, opened, _, _, closed, rfl, rfl, rfl⟩
    exact ⟨tail, opened, closed⟩
  · rintro ⟨tail, opened, closed⟩
    exact ⟨before, tail, opened, body, rest, closed, rfl, rfl, rfl⟩

theorem length_lt_of_next? {cs : List Char} {hit : Hit} (found : next? cs = some hit) :
    hit.rest.length < cs.length := by
  obtain ⟨tail, opened, closed⟩ := next?_eq_some.1 found
  exact Nat.lt_trans (Text.length_lt_of_cutAt (by decide) closed)
    (Text.length_lt_of_cutAt (by decide) opened)

/-- The bytes from the start of the text to the opening marker of the hit. -/
def Hit.opening (hit : Hit) : Nat := Text.byteLength hit.before

/-- The bytes from the start of the text past the closing marker of the hit. -/
def Hit.closing (hit : Hit) : Nat :=
  hit.opening + Text.byteLength openMarker + Text.byteLength hit.body + Text.byteLength closeMarker

/-- The expression of a hit in a text that starts at byte `offset`. -/
def Hit.expr (hit : Hit) (offset : Nat) : Expr :=
  Expr.ofRaw hit.body (offset + hit.opening) (offset + hit.closing)

/-- A text cut at its bindings: literals, each with the binding after it, and the literal at the
end. -/
structure Segments where
  bound : List (String × Expr)
  tail : String
deriving DecidableEq, Inhabited, Repr

namespace Segments

def exprs (s : Segments) : List Expr := s.bound.map Prod.snd

/-- The literals, one more than there are expressions. -/
def texts (s : Segments) : List String := s.bound.map Prod.fst ++ [s.tail]

/-- One expression with no literal text around it. -/
def single? (s : Segments) : Option Expr :=
  match s.bound with
  | [(before, expr)] => if before.isEmpty && s.tail.isEmpty then some expr else none
  | _ => none

end Segments

/-- The bindings of `cs`, where `cs` starts at byte `offset`. -/
def boundFrom (offset : Nat) (cs : List Char) : List (String × Expr) × List Char :=
  match _found : next? cs with
  | none => ([], cs)
  | some hit =>
      let (more, tail) := boundFrom (offset + hit.closing) hit.rest
      ((String.ofList hit.before, hit.expr offset) :: more, tail)
termination_by cs.length
decreasing_by exact length_lt_of_next? ‹_›

def scan (text : String) : Segments :=
  let (bound, tail) := boundFrom 0 text.toList
  { bound, tail := String.ofList tail }

/-- Whether the text holds a complete binding. -/
def hasBinding (text : String) : Bool := (next? text.toList).isSome

/-- A scan finds a binding exactly when the text holds a complete one. -/
theorem isEmpty_bound_scan (text : String) : (scan text).bound.isEmpty = !hasBinding text := by
  simp only [scan, hasBinding]
  rw [boundFrom]
  split
  · next missed => simp [missed]
  · next hit found => simp [found]

end ComponentMarkup.Binding
