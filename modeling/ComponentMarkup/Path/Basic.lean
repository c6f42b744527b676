/-!
Slash-separated paths. A path keeps its spelling, and two spellings are the same path when they
have the same segments.
-/

namespace ComponentMarkup

inductive Segment where
  | root
  | current
  | up
  | name (text : List Char)
deriving DecidableEq, Repr

/-- A path as it was spelled. -/
structure Path where
  text : String
deriving Inhabited, Repr

namespace Path

/-- The pieces between slashes; a text without slashes is one piece. -/
def pieces : List Char → List (List Char)
  | [] => [[]]
  | c :: rest =>
      if c = '/' then [] :: pieces rest
      else
        match pieces rest with
        | [] => [[c]]
        | piece :: more => (c :: piece) :: more

/-- Empty pieces and single dots stand for nothing after the first piece. -/
def segment? (piece : List Char) : Option Segment :=
  if piece = [] || piece = ['.'] then none
  else if piece = ['.', '.'] then some .up
  else some (.name piece)

def segmentsOf (text : List Char) : List Segment :=
  match pieces text with
  | [] | [[]] => []
  | [] :: rest => .root :: rest.filterMap segment?
  | ['.'] :: rest => .current :: rest.filterMap segment?
  | piece :: rest => (piece :: rest).filterMap segment?

def segments (p : Path) : List Segment := segmentsOf p.text.toList

instance : BEq Path := ⟨fun a b => a.segments == b.segments⟩

theorem beq_iff {a b : Path} : a == b ↔ a.segments = b.segments := beq_iff_eq (α := List Segment)

instance : EquivBEq Path where
  rfl := beq_iff.2 rfl
  symm same := beq_iff.2 (beq_iff.1 same).symm
  trans left right := beq_iff.2 ((beq_iff.1 left).trans (beq_iff.1 right))

/-! ## Spelling segments -/

def Segment.spelling : Segment → List Char
  | .root => ['/']
  | .current => ['.']
  | .up => ['.', '.']
  | .name text => text

def spell : List Segment → List Char
  | [] => []
  | [s] => Segment.spelling s
  | .root :: rest => '/' :: spell rest
  | s :: rest => Segment.spelling s ++ '/' :: spell rest

def ofSegments (segments : List Segment) : Path := ⟨String.ofList (spell segments)⟩

/-! ## Moving between paths -/

def isAbsolute (p : Path) : Bool := p.text.toList.head? == some '/'

/-- `q` as seen from `p`; an absolute `q` is not affected by `p`. -/
def join (p q : Path) : Path :=
  if q.isAbsolute then q
  else if p.text.isEmpty || p.text.toList.getLast? == some '/' then ⟨p.text ++ q.text⟩
  else ⟨p.text ++ "/" ++ q.text⟩

/-- The path without its last segment, which is the empty path at the top. -/
def parent (p : Path) : Path :=
  match p.segments.getLast? with
  | none | some .root => ⟨""⟩
  | some _ => ofSegments p.segments.dropLast

/-- One step of canonicalization, on the segments settled so far with the latest in front. -/
def settle (settled : List Segment) : Segment → List Segment
  | .current => settled
  | .up =>
      match settled with
      | .name _ :: rest => rest
      | .root :: _ => settled
      | _ => .up :: settled
  | s => s :: settled

def canonicalSegments (segments : List Segment) : List Segment := (segments.foldl settle []).reverse

/-- Resolves dots by spelling alone: `..` takes back a name, vanishes at the root, and stays in
front of a relative path. -/
def canonical (p : Path) : Path := ofSegments (canonicalSegments p.segments)

/-! ## Extensions -/

def fileName? (p : Path) : Option (List Char) :=
  match p.segments.getLast? with
  | some (.name text) => some text
  | _ => none

/-- What follows the last dot of the file name, unless that dot opens the name. -/
def extension? (p : Path) : Option (List Char) := do
  let name ← p.fileName?
  let tail := (name.reverse.takeWhile (· != '.')).reverse
  if name.length ≤ tail.length + 1 then none else some tail

/-- A path that names a script: extension `js`, `mjs` or `ts`, in small letters. -/
def isScript (p : Path) : Bool :=
  match p.extension? with
  | some tail => tail == "js".toList || tail == "mjs".toList || tail == "ts".toList
  | none => false

/-- A script written in the typed dialect, by its extension `ts`. -/
def isTyped (p : Path) : Bool := p.extension? == some "ts".toList

end Path
end ComponentMarkup
