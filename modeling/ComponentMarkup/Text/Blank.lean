/-!
White space in two senses: the five characters markup treats as blank, and the wider class every
human-facing field is trimmed by.
-/

namespace ComponentMarkup.Text

/-- Space, tab, line feed, carriage return and form feed. -/
def isMarkupBlank (c : Char) : Bool :=
  c = ' ' || c = '\t' || c = '\n' || c = '\r' || c = '\x0c'

/-- The White_Space property of Unicode. -/
def isBlank (c : Char) : Bool :=
  let n := c.toNat
  (9 ≤ n && n ≤ 13) || n = 0x20 || n = 0x85 || n = 0xA0 || n = 0x1680 ||
    (0x2000 ≤ n && n ≤ 0x200A) || n = 0x2028 || n = 0x2029 || n = 0x202F || n = 0x205F || n = 0x3000

theorem isBlank_of_isMarkupBlank {c : Char} (blank : isMarkupBlank c) : isBlank c := by
  simp only [isMarkupBlank, Bool.or_eq_true, decide_eq_true_eq] at blank
  rcases blank with (((h | h) | h) | h) | h <;> subst h <;> decide

theorem isBlank_of_isWhitespace {c : Char} (blank : c.isWhitespace) : isBlank c := by
  simp only [Char.isWhitespace, Bool.or_eq_true, decide_eq_true_eq] at blank
  rcases blank with ((h | h) | h) | h <;> subst h <;> decide

/-! ## Trimming -/

def trimStart (cs : List Char) : List Char := cs.dropWhile isBlank

def trimEnd (cs : List Char) : List Char := (cs.reverse.dropWhile isBlank).reverse

def trim (cs : List Char) : List Char := trimEnd (trimStart cs)

def trimmed (s : String) : String := String.ofList (trim s.toList)

/-- Nothing but blanks, or nothing at all. -/
def blankOnly (s : String) : Bool := s.toList.all isBlank

/-! ## Words -/

/-- The maximal runs of characters outside `separates`; `word` is the run being read. -/
def runsFrom (separates : Char → Bool) (word : List Char) : List Char → List (List Char)
  | [] => if word.isEmpty then [] else [word]
  | c :: rest =>
      if separates c then
        if word.isEmpty then runsFrom separates [] rest else word :: runsFrom separates [] rest
      else runsFrom separates (word ++ [c]) rest

def words (cs : List Char) : List (List Char) := runsFrom isBlank [] cs

/-! ## Compaction -/

/-- What a run of blanks at an edge shrinks to: nothing when it breaks the line, else one space. -/
def compactRun (run : List Char) : List Char :=
  if run.isEmpty || run.contains '\n' then [] else [' ']

/-- Shrinks the blank runs at both edges and keeps what stands between them. -/
def compact (cs : List Char) : List Char :=
  let lead := cs.takeWhile isMarkupBlank
  let rest := cs.dropWhile isMarkupBlank
  let trail := (rest.reverse.takeWhile isMarkupBlank).reverse
  let core := (rest.reverse.dropWhile isMarkupBlank).reverse
  if core.isEmpty then compactRun lead else compactRun lead ++ core ++ compactRun trail

def compacted (s : String) : String := String.ofList (compact s.toList)

end ComponentMarkup.Text
