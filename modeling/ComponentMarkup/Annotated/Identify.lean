import ComponentMarkup.Annotated.Pass
import ComponentMarkup.Text.Cut

/-!
Identifiers of annotated nodes. The root of each scope has a fixed one; the others are numbered in
the order in which they are given out.
-/

namespace ComponentMarkup

def rootIdentifier : String := "_root"

def elementIdentifier (n : UInt64) : String := "__e-" ++ toString n.toNat

def textIdentifier (n : UInt64) : String := "__binding" ++ toString n.toNat

/-- Reads decimal digits as a number below `2 ^ 64`; a plus sign may stand before them. -/
def readNumber? (cs : List Char) : Option UInt64 :=
  let digits := match cs with
    | '+' :: rest => rest
    | _ => cs
  if digits.isEmpty || !digits.all Char.isDigit then none
  else
    let n := digits.foldl (fun n c => n * 10 + (c.toNat - '0'.toNat)) 0
    if n < UInt64.size then some (UInt64.ofNat n) else none

/-- The number in a generated identifier. -/
def identifierNumber? (identifier : String) : Option UInt64 :=
  match Text.after? "__e-" identifier with
  | some digits => readNumber? digits.toList
  | none => (Text.after? "__binding" identifier).bind fun digits => readNumber? digits.toList

/-- Nodes that generated code has to find: bound ones, but never the root of a scope. -/
def AnnotatedNode.needsIdentifier (a : AnnotatedNode) : Bool :=
  !a.isRoot &&
    (a.hasDataBinding || a.hasQuery || a.isStructural ||
      match a.bindings? with
      | some bindings => !bindings.isEmpty
      | none => false)

namespace Pass

/-- The nearest node above `id` that generated code builds looks its descendants up by query. -/
def markQuery (s : Pass) (id : AnnotatedId) : Pass :=
  match (s.annotations.ancestors id).find? s.annotations.isBuilt with
  | some ancestor => s.update ancestor fun a => { a with hasQuery := true }
  | none => s

/-- Gives a node its number; a node of the static markup also gets it as its `id`. -/
def number (s : Pass) (id : AnnotatedId) (source : NodeId) : Pass :=
  let (n, s) := s.draw
  let identifier := elementIdentifier n
  let s :=
    if s.annotations.isBuilt id then s
    else s.mapDocument (·.setAttribute source "id" identifier)
  s.update id fun a => { a with identifier := some identifier }

/-- Numbers a node that needs an identifier and has none. -/
def identify (s : Pass) (id : AnnotatedId) : Pass :=
  match s.annotations.get? id with
  | none => s
  | some a =>
      if a.identifier.isSome || !a.needsIdentifier then s else (s.markQuery id).number id a.source

end Pass
end ComponentMarkup
