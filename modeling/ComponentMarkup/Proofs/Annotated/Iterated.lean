import ComponentMarkup.Proofs.Annotated.Given
import ComponentMarkup.Proofs.Annotated.Lasting
import ComponentMarkup.Proofs.Text

/-!
Which texts `name in list` make an element an iteration, and what is made of an element that has one.
-/

namespace ComponentMarkup
namespace Plan

/-! ## Texts -/

/-- A letter, `_` or `$`, and letters, digits, `_` or `$` after it. -/
def IsName (name : List Char) : Prop :=
  (∃ first ∈ name.head?, isNameStart first = true) ∧ ∀ c ∈ name, isNamePart c = true

def IsBlank (cs : List Char) : Prop := ∀ c ∈ cs, Text.isBlank c = true

/-- The text begins with the name and the word `in`, and `rest` comes after them. -/
def Leads (text name rest : List Char) : Prop :=
  ∃ lead gap, text = lead ++ (name ++ (gap ++ (['i', 'n'] ++ rest))) ∧
    IsBlank lead ∧ IsName name ∧ IsBlank gap ∧ gap ≠ []

/-- The text has the form `name in list`, with blanks around the word and perhaps at the ends. -/
def IsForm (text name list : List Char) : Prop :=
  ∃ gap trail, Leads text name (gap ++ list ++ trail) ∧
    IsBlank gap ∧ gap ≠ [] ∧ ¬ IsBlank list ∧ IsBlank trail

/-- The text is read as an iteration over `items`. A list that breaks the line is not read. Where
there are only blanks in the place of a list, the last of them that breaks no line is taken for it,
unless it is the first, which separates the word. -/
inductive IsRead (text : List Char) : List Char → List Char → Prop
  | list {name list : List Char} (form : IsForm text name list)
      (oneLine : '\n' ∉ Text.trim list) : IsRead text name (Text.trim list)
  | blank {name between breaks : List Char} {separator last : Char}
      (leads : Leads text name (separator :: (between ++ last :: breaks)))
      (blank : IsBlank (separator :: (between ++ last :: breaks))) (kept : last ≠ '\n')
      (dropped : ∀ c ∈ breaks, c = '\n') : IsRead text name [last]

variable {text name name' list list' items rest rest' gap : List Char} {c : Char}

instance : Decidable (IsName name) :=
  decidable_of_iff (name.head?.any isNameStart = true ∧ name.all isNamePart = true)
    (and_congr (Option.any_eq_true ..) List.all_eq_true)

instance : Decidable (IsBlank gap) :=
  decidable_of_iff (gap.all Text.isBlank = true) List.all_eq_true

/-- No blank is part of a name. -/
theorem isNamePart_of_isBlank (blank : Text.isBlank c = true) : isNamePart c = false := by
  rw [Bool.eq_false_iff]
  intro part
  simp only [Text.isBlank, Bool.or_eq_true, Bool.and_eq_true, decide_eq_true_eq] at blank
  have alpha : c.isAlpha = (c.isUpper || c.isLower) := rfl
  have upper : c.isUpper = decide (c.val ≥ 65 ∧ c.val ≤ 90) := rfl
  have lower : c.isLower = (decide (c.val ≥ 97) && decide (c.val ≤ 122)) := rfl
  have code : c.toNat = 36 ∨ 48 ≤ c.toNat ∧ c.toNat ≤ 122 := by
    simp only [isNamePart, Char.isAlphanum, alpha, upper, lower, Char.isDigit, Bool.or_eq_true,
      Bool.and_eq_true, decide_eq_true_eq, ge_iff_le, UInt32.le_iff_toNat_le] at part
    rcases part with (((⟨low, high⟩ | ⟨low, high⟩) | ⟨low, high⟩) | rfl) | rfl
    · exact .inr ⟨Nat.le_trans (by decide) low, Nat.le_trans high (by decide)⟩
    · exact .inr ⟨Nat.le_trans (by decide) low, Nat.le_trans high (by decide)⟩
    · exact .inr ⟨Nat.le_trans (by decide) low, Nat.le_trans high (by decide)⟩
    · decide
    · decide
  omega

theorem IsName.ne_nil (isName : IsName name) : name ≠ [] := by
  rintro rfl
  obtain ⟨⟨first, isHead, -⟩, -⟩ := isName
  cases isHead

theorem IsName.trimStart (isName : IsName name) : Text.trimStart name = name := by
  rw [Text.trimStart_eq_self_iff]
  intro c isHead
  rw [Bool.eq_false_iff]
  intro blank
  have part := isName.2 c (List.mem_of_mem_head? isHead)
  rw [isNamePart_of_isBlank blank] at part
  cases part

/-! ## What leads -/

theorem exists_cons_of_isBlank (blank : IsBlank gap) (nonempty : gap ≠ []) :
    ∃ separator more, gap = separator :: more ∧ Text.isBlank separator = true := by
  cases gap with
  | nil => exact absurd rfl nonempty
  | cons separator more => exact ⟨separator, more, rfl, blank separator List.mem_cons_self⟩

/-- The name ends where the first blank after it stands. -/
theorem Leads.cut (leads : Leads text name rest) :
    (Text.trimStart text).takeWhile isNamePart = name ∧
      ∃ gap, (Text.trimStart text).dropWhile isNamePart = gap ++ (['i', 'n'] ++ rest) ∧
        IsBlank gap ∧ gap ≠ [] := by
  obtain ⟨lead, gap, rfl, leadBlank, isName, gapBlank, nonempty⟩ := leads
  obtain ⟨separator, more, rfl, isSeparator⟩ := exists_cons_of_isBlank gapBlank nonempty
  have ends : ¬ isNamePart separator = true :=
    Bool.eq_false_iff.1 (isNamePart_of_isBlank isSeparator)
  rw [Text.trimStart_append_of_blank leadBlank,
    Text.trimStart_append isName.trimStart isName.ne_nil]
  refine ⟨?_, separator :: more, ?_, gapBlank, nonempty⟩
  · rw [List.takeWhile_append_of_pos isName.2, List.cons_append, List.takeWhile_cons_of_neg ends,
      List.append_nil]
  · rw [List.dropWhile_append_of_pos isName.2, List.cons_append, List.dropWhile_cons_of_neg ends]

theorem trimStart_gap (blank : IsBlank gap) (rest : List Char) :
    Text.trimStart (gap ++ (['i', 'n'] ++ rest)) = ['i', 'n'] ++ rest := by
  rw [Text.trimStart_append_of_blank blank]
  exact List.dropWhile_cons_of_neg (by decide)

theorem Leads.unique (leads : Leads text name rest) (leads' : Leads text name' rest') :
    name = name' ∧ rest = rest' := by
  obtain ⟨here, gap, after, blank, -⟩ := leads.cut
  obtain ⟨here', gap', after', blank', -⟩ := leads'.cut
  refine ⟨here.symm.trans here', ?_⟩
  have same := congrArg Text.trimStart (after.symm.trans after')
  rw [trimStart_gap blank, trimStart_gap blank'] at same
  exact List.append_cancel_left same

/-- The name of a text of the form and its list without the blanks around it are the only ones. -/
theorem IsForm.unique (form : IsForm text name list) (form' : IsForm text name' list') :
    name = name' ∧ Text.trim list = Text.trim list' := by
  obtain ⟨gap, trail, leads, blank, -, -, blank'⟩ := form
  obtain ⟨gap₁, trail₁, leads₁, blank₁, -, -, blank₁'⟩ := form'
  obtain ⟨names, rests⟩ := leads.unique leads₁
  refine ⟨names, ?_⟩
  rw [← Text.trim_between blank list blank', rests, Text.trim_between blank₁ list' blank₁']

variable {d : Document} {node : NodeId} {v : String}

end Plan

/-! ## The element -/

namespace Pass
variable {s t : Pass} {around : Surroundings} {node : NodeId} {tag v : String} {entry : Entry}

end Pass
end ComponentMarkup
