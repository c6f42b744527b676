import ComponentMarkup.Proofs.Binding.Segments
import ComponentMarkup.Text.Blank
import Mathlib.Data.List.Basic
import Mathlib.Data.List.Flatten

/-!
The tokens of a text with bindings, where a binding is one mark and no blank in it counts. A token can
have literal characters beside a binding, and then what its bindings leave of it are fragments.
-/

namespace ComponentMarkup

/-! ## Runs -/

section Runs
variable {α β : Type} {p : α → Bool} {a : α} {l run : List α}

/-- The maximal runs of elements that do not separate. -/
def runs (separates : α → Bool) (l : List α) : List (List α) :=
  (l.splitOnP separates).filter (!·.isEmpty)

theorem runs_nil (p : α → Bool) : runs p [] = [] := rfl

theorem runs_append_cons (separates : p a = true) (before after : List α) :
    runs p (before ++ a :: after) = runs p before ++ runs p after := by
  rw [runs, List.splitOnP_append_cons before after separates, List.filter_append, runs, runs]

theorem runs_cons_of_pos (separates : p a = true) (l : List α) : runs p (a :: l) = runs p l :=
  runs_append_cons separates [] l

theorem runs_eq_singleton (solid : ∀ a ∈ l, p a = false) (nonempty : l ≠ []) : runs p l = [l] := by
  rw [runs, List.splitOnP_eq_singleton solid, List.filter_cons_of_pos (by simpa using nonempty),
    List.filter_nil]

theorem runs_eq_nil (separates : ∀ a ∈ l, p a = true) : runs p l = [] := by
  induction l with
  | nil => exact runs_nil p
  | cons a l ih =>
      obtain ⟨first, later⟩ := List.forall_mem_cons.1 separates
      rw [runs_cons_of_pos first, ih later]

/-- An element that does not separate belongs to the first part. -/
theorem exists_splitOnP_cons (solid : p a = false) (l : List α) : ∃ first rest,
    l.splitOnP p = first :: rest ∧ (a :: l).splitOnP p = (a :: first) :: rest := by
  obtain ⟨first, rest, split⟩ := List.exists_cons_of_ne_nil (List.splitOnP_ne_nil p l)
  refine ⟨first, rest, split, ?_⟩
  rw [List.splitOnP_cons_eq_if_modifyHead, if_neg (by simp [solid]), split, List.modifyHead_cons]

theorem splitOnP_cons_of_pos (separates : p a = true) (l : List α) :
    (a :: l).splitOnP p = [] :: l.splitOnP p := by
  rw [List.splitOnP_cons_eq_if_modifyHead, if_pos separates]

theorem runs_ne_nil (member : a ∈ l) (solid : p a = false) : runs p l ≠ [] := by
  induction l with
  | nil => cases member
  | cons b l ih =>
      cases separates : p b with
      | true =>
          rw [runs_cons_of_pos separates]
          refine ih ((List.mem_cons.1 member).resolve_left ?_)
          rintro rfl
          cases solid.symm.trans separates
      | false =>
          obtain ⟨first, rest, -, split⟩ := exists_splitOnP_cons separates l
          rw [runs, split, List.filter_cons_of_pos rfl]
          exact List.cons_ne_nil _ _

theorem solid_of_mem_splitOnP (member : run ∈ l.splitOnP p) : ∀ a ∈ run, p a = false := by
  induction l generalizing run with
  | nil =>
      obtain rfl := List.mem_singleton.1 member
      exact nofun
  | cons b l ih =>
      cases separates : p b with
      | true =>
          rw [splitOnP_cons_of_pos separates] at member
          rcases List.mem_cons.1 member with rfl | later
          · exact nofun
          · exact ih later
      | false =>
          obtain ⟨first, rest, split, split'⟩ := exists_splitOnP_cons separates l
          rw [split] at ih
          rw [split'] at member
          rcases List.mem_cons.1 member with rfl | later
          · exact List.forall_mem_cons.2 ⟨separates, ih List.mem_cons_self⟩
          · exact ih (List.mem_cons_of_mem _ later)

theorem of_mem_runs (member : run ∈ runs p l) : run ≠ [] ∧ ∀ a ∈ run, p a = false := by
  obtain ⟨member, nonempty⟩ := List.mem_filter.1 member
  exact ⟨by simpa using nonempty, solid_of_mem_splitOnP member⟩

/-- Splitting the parts of a split is one split at both. -/
theorem flatMap_splitOnP (p q : α → Bool) (l : List α) :
    (l.splitOnP p).flatMap (·.splitOnP q) = l.splitOnP fun a => p a || q a := by
  generalize isEither : (fun a => p a || q a) = either
  have either_eq (a : α) : either a = (p a || q a) := by rw [← isEither]
  clear isEither
  induction l with
  | nil => rfl
  | cons a l ih =>
      cases first : p a with
      | true =>
          have both : either a = true := by rw [either_eq, first, Bool.true_or]
          rw [splitOnP_cons_of_pos first, splitOnP_cons_of_pos both, ← ih]
          rfl
      | false =>
          obtain ⟨part, parts, split, split'⟩ := exists_splitOnP_cons first l
          rw [split', List.flatMap_cons]
          rw [split, List.flatMap_cons] at ih
          cases second : q a with
          | true =>
              have both : either a = true := by rw [either_eq, second, Bool.or_true]
              rw [splitOnP_cons_of_pos second, splitOnP_cons_of_pos both, ← ih, List.cons_append]
          | false =>
              have neither : either a = false := by rw [either_eq, first, second, Bool.or_false]
              obtain ⟨piece, pieces, cut, cut'⟩ := exists_splitOnP_cons second part
              obtain ⟨piece', pieces', whole, whole'⟩ := exists_splitOnP_cons neither l
              rw [cut, List.cons_append, whole] at ih
              obtain ⟨rfl, rfl⟩ := List.cons.inj ih
              rw [cut', whole', List.cons_append]

/-- Parts without elements have no runs. -/
theorem flatMap_runs_splitOnP (p q : α → Bool) (l : List α) :
    (runs p l).flatMap (runs q) = (l.splitOnP p).flatMap (runs q) := by
  rw [runs]
  generalize l.splitOnP p = parts
  induction parts with
  | nil => rfl
  | cons part parts ih =>
      cases part with
      | nil => exact ih
      | cons a part => rw [List.filter_cons_of_pos rfl, List.flatMap_cons, ih, List.flatMap_cons]

theorem flatMap_runs (p q : α → Bool) (l : List α) :
    (runs p l).flatMap (runs q) = runs (fun a => p a || q a) l := by
  rw [flatMap_runs_splitOnP, runs, ← flatMap_splitOnP, List.filter_flatMap]
  rfl

/-- At which of two separators a list is cut first plays no part. -/
theorem flatMap_runs_comm (p q : α → Bool) (l : List α) :
    (runs p l).flatMap (runs q) = (runs q l).flatMap (runs p) := by
  rw [flatMap_runs, flatMap_runs]
  simp only [Bool.or_comm]

theorem splitOnP_map (p : α → Bool) (f : β → α) (l : List β) :
    (l.map f).splitOnP p = (l.splitOnP (p ∘ f)).map (List.map f) := by
  induction l with
  | nil => rfl
  | cons b l ih =>
      rw [List.map_cons]
      cases separates : p (f b) with
      | true =>
          have separates' : (p ∘ f) b = true := separates
          rw [splitOnP_cons_of_pos separates, splitOnP_cons_of_pos separates', ih]
          rfl
      | false =>
          have solid : (p ∘ f) b = false := separates
          obtain ⟨first, rest, cut, cut'⟩ := exists_splitOnP_cons separates (l.map f)
          obtain ⟨first', rest', whole, whole'⟩ := exists_splitOnP_cons solid l
          rw [cut, whole, List.map_cons] at ih
          obtain ⟨rfl, rfl⟩ := List.cons.inj ih
          rw [cut', whole', List.map_cons, List.map_cons]

theorem runs_map (p : α → Bool) (f : β → α) (l : List β) :
    runs p (l.map f) = (runs (p ∘ f) l).map (List.map f) := by
  rw [runs, splitOnP_map, List.filter_map, runs]
  congr 2
  funext part
  cases part <;> rfl

/-- Lists that are parts of others add up to the same only if each is the whole of its other. -/
theorem flatMap_eq_iff_of_sublist {f g : α → List β} (sub : ∀ a ∈ l, (f a).Sublist (g a)) :
    l.flatMap f = l.flatMap g ↔ ∀ a ∈ l, f a = g a := by
  refine ⟨fun same => ?_, List.flatMap_congr⟩
  induction l with
  | nil => exact nofun
  | cons a l ih =>
      obtain ⟨first, later⟩ := List.forall_mem_cons.1 sub
      rw [List.flatMap_cons, List.flatMap_cons] at same
      have whole : f a = g a := by
        have lengths := congrArg List.length same
        rw [List.length_append, List.length_append] at lengths
        have := first.length_le
        have := (List.Sublist.flatMap_right l later).length_le
        exact first.eq_of_length (by omega)
      rw [whole] at same
      exact List.forall_mem_cons.2 ⟨whole, ih later (List.append_cancel_left same)⟩

end Runs

/-! ## Words -/

namespace Text
variable {words : List (List Char)}

theorem runsFrom_eq (separates : Char → Bool) (word cs : List Char) :
    runsFrom separates word cs =
      ((cs.splitOnP separates).modifyHead (word ++ ·)).filter (!·.isEmpty) := by
  induction cs generalizing word with
  | nil =>
      rw [runsFrom, List.splitOnP_nil, List.modifyHead_cons, List.append_nil]
      cases word <;> rfl
  | cons c cs ih =>
      rw [runsFrom]
      cases parted : separates c with
      | true =>
          rw [if_pos rfl, splitOnP_cons_of_pos parted, List.modifyHead_cons, List.append_nil, ih]
          have same : (cs.splitOnP separates).modifyHead ([] ++ ·) = cs.splitOnP separates :=
            congrFun List.modifyHead_id _
          rw [same]
          cases word <;> rfl
      | false =>
          obtain ⟨first, rest, split, split'⟩ := exists_splitOnP_cons parted cs
          rw [if_neg Bool.false_ne_true, ih, split, split', List.modifyHead_cons,
            List.modifyHead_cons, List.append_assoc, List.singleton_append]

theorem words_eq_runs (cs : List Char) : Text.words cs = runs isBlank cs := by
  rw [Text.words, runsFrom_eq, runs]
  exact congrArg (List.filter _) (congrFun List.modifyHead_id _)

/-- Words put together with blanks are the words of that text. -/
theorem words_intercalate
    (solid : ∀ word ∈ words, word ≠ [] ∧ ∀ c ∈ word, isBlank c = false) :
    Text.words ([' '].intercalate words) = words := by
  have space : isBlank ' ' = true := by decide
  rw [words_eq_runs]
  induction words with
  | nil => rfl
  | cons word words ih =>
      obtain ⟨⟨nonempty, first⟩, later⟩ := List.forall_mem_cons.1 solid
      cases words with
      | nil =>
          rw [List.intercalate_singleton]
          exact runs_eq_singleton first nonempty
      | cons next words =>
          rw [List.intercalate_cons_cons, List.append_assoc, List.singleton_append,
            runs_append_cons space, runs_eq_singleton first nonempty, ih later]
          rfl

end Text

namespace Binding

/-! ## Marks -/

/-- What stands at a place of a text: a character outside the bindings, or a binding. -/
inductive Mark where
  | char (c : Char)
  | bound (e : Expr)
deriving DecidableEq

namespace Mark

def isBlank : Mark → Bool
  | char c => Text.isBlank c
  | bound _ => false

def isBound : Mark → Bool
  | char _ => false
  | bound _ => true

def source : Mark → List Char
  | char c => [c]
  | bound e => e.source

/-- The character, if it is one. -/
def char? : Mark → Option Char
  | char c => some c
  | bound _ => none

end Mark

def Segments.marks (s : Segments) : List Mark :=
  s.bound.flatMap (fun part => part.1.toList.map .char ++ [.bound part.2]) ++ s.tail.toList.map .char

/-- The characters among marks. -/
def charsOf (marks : List Mark) : String := String.ofList (marks.filterMap Mark.char?)

/-- A token that no blank outside bindings cuts. -/
def tokens (text : String) : List (List Mark) := runs Mark.isBlank (scan text).marks

/-- What the bindings of a token leave of it. -/
def fragments (token : List Mark) : List String := (runs Mark.isBound token).map charsOf

/-- The tokens without any part of a binding. -/
def wholeTokens (text : String) : List String :=
  ((tokens text).filter (·.all (!·.isBound))).map charsOf

/-- Whether a token has literal characters beside a binding. -/
def isMixed (token : List Mark) : Bool := token.any Mark.isBound && token.any (!·.isBound)

variable {text : String} {token : List Mark}

theorem charsOf_map (cs : List Char) : charsOf (cs.map .char) = String.ofList cs := by
  rw [charsOf, List.filterMap_map]
  exact congrArg String.ofList (List.filterMap_some)

theorem source_map (cs : List Char) : (cs.map Mark.char).flatMap Mark.source = cs := by
  rw [List.flatMap_map]
  exact List.flatMap_singleton' cs

/-- Marks are a way to read the text. -/
theorem source_marks_scan (text : String) :
    (scan text).marks.flatMap Mark.source = text.toList := by
  have whole := congrArg String.toList (interleave_scan text)
  rw [← whole]
  generalize scan text = segments
  obtain ⟨bound, tail⟩ := segments
  rw [Segments.marks, Segments.texts, Segments.exprs]
  induction bound with
  | nil => simp [interleave, source_map]
  | cons part bound ih =>
      simp only [List.flatMap_cons, List.flatMap_append, List.append_assoc] at ih ⊢
      rw [ih, source_map]
      simp [interleave, Mark.source]

/-! ## Tokens and fragments -/

/-- Cut at its bindings a text is its literals. -/
theorem splitOnP_marks (segments : Segments) : segments.marks.splitOnP Mark.isBound =
    segments.texts.map fun literal => literal.toList.map .char := by
  obtain ⟨bound, tail⟩ := segments
  have literal (cs : List Char) : ∀ mark ∈ cs.map Mark.char, mark.isBound = false := by
    simp [Mark.isBound]
  rw [Segments.marks, Segments.texts]
  induction bound with
  | nil => exact List.splitOnP_eq_singleton (literal _)
  | cons part bound ih =>
      rw [List.flatMap_cons, List.append_assoc, List.append_assoc, List.singleton_append,
        List.splitOnP_append_cons_of_forall_mem (literal _) _ rfl, ih]
      rfl

/-- What bindings leave of the tokens are the words of the literals. -/
theorem flatMap_fragments (text : String) : (tokens text).flatMap fragments =
    (scan text).texts.flatMap fun literal => (Text.words literal.toList).map String.ofList := by
  have words (literal : String) : (runs Mark.isBlank (literal.toList.map .char)).map charsOf =
      (Text.words literal.toList).map String.ofList := by
    rw [runs_map, Text.words_eq_runs, List.map_map]
    exact List.map_congr_left fun word _ => charsOf_map word
  calc (tokens text).flatMap fragments
      = ((tokens text).flatMap (runs Mark.isBound)).map charsOf := List.map_flatMap.symm
    _ = ((scan text).texts.flatMap fun literal =>
          runs Mark.isBlank (literal.toList.map .char)).map charsOf := by
        rw [tokens, flatMap_runs_comm, flatMap_runs_splitOnP, splitOnP_marks, List.flatMap_map]
    _ = _ := by
        rw [List.map_flatMap]
        exact List.flatMap_congr fun literal _ => words literal

theorem wholeTokens_eq (text : String) : wholeTokens text =
    (tokens text).flatMap fun token => if token.all (!·.isBound) then [charsOf token] else [] := by
  rw [wholeTokens]
  generalize tokens text = tokens
  induction tokens with
  | nil => rfl
  | cons token tokens ih =>
      rw [List.flatMap_cons, ← ih, List.filter_cons]
      split <;> rfl

theorem fragments_of_whole (nonempty : token ≠ []) (whole : token.all (!·.isBound) = true) :
    fragments token = [charsOf token] := by
  have solid : ∀ mark ∈ token, mark.isBound = false := by simpa using whole
  rw [fragments, runs_eq_singleton solid nonempty, List.map_singleton]

/-- A token has fragments beside itself when it is mixed. -/
theorem fragments_of_bound (bound : token.all (!·.isBound) = false) :
    fragments token = [] ↔ isMixed token = false := by
  have some : token.any Mark.isBound = true := by
    rw [List.any_eq_not_all_not, bound]
    rfl
  rw [isMixed, some, Bool.true_and]
  constructor
  · intro none
    rw [List.any_eq_false]
    intro mark member solid
    rw [Bool.not_eq_true'] at solid
    exact runs_ne_nil member solid (List.map_eq_nil_iff.1 none)
  · intro all
    rw [fragments, runs_eq_nil, List.map_nil]
    simpa using all

theorem sublist_fragments (member : token ∈ tokens text) :
    (if token.all (!·.isBound) then [charsOf token] else []).Sublist (fragments token) := by
  split
  · next whole => exact fragments_of_whole (of_mem_runs member).1 whole ▸ .refl _
  · exact List.nil_sublist _

/-- No whole token is lost. -/
theorem wholeTokens_sublist (text : String) :
    (wholeTokens text).Sublist ((tokens text).flatMap fragments) := by
  rw [wholeTokens_eq]
  exact List.Sublist.flatMap_right _ fun token => sublist_fragments

/-- What bindings leave of the tokens are the whole ones exactly when none is mixed. -/
theorem fragments_eq_whole_iff (text : String) :
    (tokens text).flatMap fragments = wholeTokens text ↔
      ∀ token ∈ tokens text, isMixed token = false := by
  rw [wholeTokens_eq, eq_comm, flatMap_eq_iff_of_sublist fun token => sublist_fragments]
  refine forall₂_congr fun token member => ?_
  split
  · next whole =>
    refine iff_of_true (fragments_of_whole (of_mem_runs member).1 whole).symm ?_
    rw [isMixed, List.any_eq_not_all_not, whole]
    rfl
  · next bound =>
    rw [eq_comm]
    exact fragments_of_bound (Bool.eq_false_iff.2 bound)

/-- The fragments have no blanks, and none of them is empty. -/
theorem solid_of_fragment {fragment : String} (member : fragment ∈ (tokens text).flatMap fragments) :
    fragment.toList ≠ [] ∧ ∀ c ∈ fragment.toList, Text.isBlank c = false := by
  rw [flatMap_fragments] at member
  obtain ⟨literal, -, member⟩ := List.mem_flatMap.1 member
  obtain ⟨word, isWord, rfl⟩ := List.mem_map.1 member
  rw [Text.words_eq_runs] at isWord
  rw [String.toList_ofList]
  exact of_mem_runs isWord

end Binding
end ComponentMarkup
