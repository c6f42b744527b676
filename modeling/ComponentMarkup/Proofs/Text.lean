import ComponentMarkup.Text.Blank
import ComponentMarkup.Text.Casing
import ComponentMarkup.Text.Cut
import ComponentMarkup.Text.Quoted
import Mathlib.Data.List.DropRight

/-!
Texts. Trimming takes blanks off both ends of one and leaves nothing to take off, camel casing leaves
no hyphen behind, and a cut is made at the first place where a marker stands: there is none exactly
when the marker stands nowhere. A literal for a text is read as that text.
-/

namespace ComponentMarkup.Text

/-! ## Trimming -/

section Blanks
variable {cs : List Char} {c : Char}

theorem exists_blanks_trimStart (cs : List Char) :
    ∃ blanks, (∀ c ∈ blanks, isBlank c = true) ∧ blanks ++ trimStart cs = cs :=
  ⟨cs.takeWhile isBlank, fun _ member => List.mem_takeWhile_imp member,
    List.takeWhile_append_dropWhile⟩

theorem exists_trimEnd_blanks (cs : List Char) :
    ∃ blanks, (∀ c ∈ blanks, isBlank c = true) ∧ trimEnd cs ++ blanks = cs := by
  obtain ⟨blanks, blank, same⟩ := exists_blanks_trimStart cs.reverse
  refine ⟨blanks.reverse, fun c member => blank c (List.mem_reverse.1 member), ?_⟩
  have reversed := congrArg List.reverse same
  rwa [List.reverse_append, List.reverse_reverse] at reversed

/-- A text begins with no blank. -/
theorem trimStart_eq_self_iff : trimStart cs = cs ↔ ∀ c ∈ cs.head?, isBlank c = false := by
  cases cs with
  | nil => simp [trimStart]
  | cons c cs =>
      rw [trimStart, List.dropWhile_eq_self_iff]
      simp

theorem trim_cons_of_pos (blank : isBlank c = true) (cs : List Char) : trim (c :: cs) = trim cs := by
  rw [trim, trim, trimStart, List.dropWhile_cons_of_pos blank, trimStart]

theorem trimEnd_concat_of_neg (solid : isBlank c = false) : trimEnd (cs ++ [c]) = cs ++ [c] :=
  List.rdropWhile_concat_neg _ _ _ (by simp [solid])

theorem trimStart_append (solid : trimStart cs = cs) (nonempty : cs ≠ []) (rest : List Char) :
    trimStart (cs ++ rest) = cs ++ rest := by
  rw [trimStart_eq_self_iff] at solid ⊢
  rwa [List.head?_append_of_ne_nil _ nonempty]

/-- A text with no blank at either end. -/
theorem trim_append_concat (first : trimStart cs = cs) (nonempty : cs ≠ []) (rest : List Char)
    (last : isBlank c = false) : trim (cs ++ (rest ++ [c])) = cs ++ (rest ++ [c]) := by
  rw [trim, trimStart_append first nonempty, ← List.append_assoc, trimEnd_concat_of_neg last]

theorem trimStart_trim (cs : List Char) : trimStart (trim cs) = trim cs := by
  have solid : trimStart (trimStart cs) = trimStart cs := List.dropWhile_idempotent ..
  rw [trimStart_eq_self_iff] at solid ⊢
  obtain ⟨blanks, -, same⟩ := exists_trimEnd_blanks (trimStart cs)
  intro c first
  apply solid
  rw [← same, List.head?_append]
  rw [trim] at first
  rw [first]
  rfl

theorem trimEnd_trim (cs : List Char) : trimEnd (trim cs) = trim cs :=
  List.rdropWhile_idempotent ..

theorem trim_trim (cs : List Char) : trim (trim cs) = trim cs := by
  rw [trim, trimStart_trim, trimEnd_trim]

theorem trimmed_trimmed (s : String) : trimmed (trimmed s) = trimmed s := by
  rw [trimmed, trimmed, String.toList_ofList, trim_trim]

/-! ### Blanks around a text -/

theorem trimStart_append_of_blank {blanks : List Char} (blank : ∀ c ∈ blanks, isBlank c = true)
    (cs : List Char) : trimStart (blanks ++ cs) = trimStart cs :=
  List.dropWhile_append_of_pos blank

theorem trimEnd_append_of_blank {blanks : List Char} (blank : ∀ c ∈ blanks, isBlank c = true)
    (cs : List Char) : trimEnd (cs ++ blanks) = trimEnd cs := by
  rw [trimEnd, List.reverse_append,
    List.dropWhile_append_of_pos fun c member => blank c (List.mem_reverse.1 member), trimEnd]

/-- Blanks around a text make no difference to what is left when it is trimmed. -/
theorem trim_between {lead trail : List Char} (blank : ∀ c ∈ lead, isBlank c = true)
    (cs : List Char) (blank' : ∀ c ∈ trail, isBlank c = true) :
    trim (lead ++ cs ++ trail) = trim cs := by
  rw [List.append_assoc, trim, trimStart_append_of_blank blank, trim, trimStart,
    List.dropWhile_append]
  split
  · next empty =>
    have nothing : trimStart cs = [] := List.isEmpty_iff.1 empty
    rw [nothing, List.dropWhile_eq_nil_iff.2 blank']
  · rw [trimEnd_append_of_blank blank']
    rfl

end Blanks

/-! ## Camel casing -/

section Casing
variable {c : Char}

theorem eq_of_ofNat_eq_hyphen {n : Nat} (same : Char.ofNat n = '-') : n = 45 := by
  unfold Char.ofNat at same
  by_cases valid : n.isValidChar
  · rw [dif_pos valid] at same
    exact congrArg Char.toNat same
  · rw [dif_neg valid] at same
    cases same

theorem hyphen_not_mem_uppercase (other : c ≠ '-') : '-' ∉ uppercase c := by
  unfold uppercase
  dsimp only
  split
  · next small =>
    have ascii : ∀ n < 0x80, (Char.ofNat n).toUpper = '-' → Char.ofNat n = '-' := by decide
    have kept := ascii c.toNat small
    rw [Char.ofNat_toNat] at kept
    exact fun member => other (kept (List.mem_singleton.1 member).symm)
  · split
    · next long found =>
      have apart : ∀ entry ∈ longUppercases, '-' ∉ entry.2.map Char.ofNat := by decide
      obtain ⟨before, after, entries, -⟩ := List.lookup_eq_some_iff.1 found
      exact apart (c.toNat, long) (by rw [entries]; exact List.mem_append_right _ List.mem_cons_self)
    · next run missing found =>
      have above : ∀ run ∈ caseRuns, 45 < run.target := by decide +kernel
      have target := above run (List.mem_of_find?_eq_some found)
      intro member
      have code := eq_of_ofNat_eq_hyphen (List.mem_singleton.1 member).symm
      rw [CaseRun.upper] at code
      omega
    · exact fun member => other (List.mem_singleton.1 member).symm

theorem hyphen_not_mem_camelFrom (raise : Bool) (cs : List Char) : '-' ∉ camelFrom raise cs := by
  induction cs generalizing raise with
  | nil => exact List.not_mem_nil
  | cons c cs ih =>
      rw [camelFrom]
      split
      · exact ih true
      · next other =>
        rw [List.mem_append, not_or]
        refine ⟨?_, ih false⟩
        split
        · exact hyphen_not_mem_uppercase other
        · exact fun member => other (List.mem_singleton.1 member).symm

theorem hyphen_not_mem_camelCased (s : String) : '-' ∉ (camelCased s).toList := by
  rw [camelCased, String.toList_ofList]
  exact hyphen_not_mem_camelFrom false s.toList

end Casing

/-! ## Cuts -/

section Kinds
variable {α : Type} {p : α → Bool} {front rest : List α}

/-- Items of one kind are cut off up to the first one of another. -/
theorem takeWhile_append (inside : ∀ c ∈ front, p c) (ends : ∀ c ∈ rest.head?, p c = false) :
    (front ++ rest).takeWhile p = front := by
  rw [List.takeWhile_append_of_pos inside]
  cases rest with
  | nil => rw [List.takeWhile_nil, List.append_nil]
  | cons c rest => rw [List.takeWhile_cons_of_neg (by simpa using ends c rfl), List.append_nil]

theorem dropWhile_append (inside : ∀ c ∈ front, p c) (ends : ∀ c ∈ rest.head?, p c = false) :
    (front ++ rest).dropWhile p = rest := by
  have parts : (front ++ rest).takeWhile p ++ (front ++ rest).dropWhile p = front ++ rest :=
    List.takeWhile_append_dropWhile
  rw [takeWhile_append inside ends] at parts
  exact List.append_cancel_left parts

end Kinds

section Cuts
variable {marker cs before rest : List Char}

/-- The marker starts at a place of the text. -/
def StandsAt (marker cs : List Char) (place : Nat) : Prop := marker <+: cs.drop place

theorem standsAt_succ {c : Char} {place : Nat} :
    StandsAt marker (c :: cs) (place + 1) ↔ StandsAt marker cs place := Iff.rfl

theorem standsAt_append_left {place : Nat} :
    StandsAt marker (before ++ cs) (before.length + place) ↔ StandsAt marker cs place := by
  rw [StandsAt, ← List.drop_drop, List.drop_left]
  rfl

theorem StandsAt.append {place : Nat} (stands : StandsAt marker cs place) :
    StandsAt marker (cs ++ rest) place := by
  refine List.IsPrefix.trans stands ?_
  rw [List.drop_append]
  exact List.prefix_append _ _

/-- A marker that ends within the first part of a text stands there whatever follows. -/
theorem StandsAt.of_append {place : Nat} (stands : StandsAt marker (cs ++ rest) place)
    (fits : place + marker.length ≤ cs.length) : StandsAt marker cs place := by
  rw [StandsAt, List.drop_append_of_le_length (by omega)] at stands
  exact List.prefix_of_prefix_length_le stands (List.prefix_append _ _)
    (by rw [List.length_drop]; omega)

theorem standsAt_between (before marker rest : List Char) :
    StandsAt marker (before ++ marker ++ rest) before.length := by
  rw [StandsAt, List.append_assoc, List.drop_left]
  exact List.prefix_append _ _

theorem afterLead?_eq_none : afterLead? marker cs = none ↔ ¬ marker <+: cs := by
  rw [Option.eq_none_iff_forall_ne_some, List.IsPrefix, not_exists]
  exact forall_congr' fun rest => not_congr afterLead?_eq_some

/-- Nothing before a cut lets the marker stand there. -/
theorem le_of_cutAt (cut : cutAt marker cs = some (before, rest)) {place : Nat}
    (stands : StandsAt marker cs place) : before.length ≤ place := by
  induction cs generalizing before place with
  | nil =>
      obtain ⟨tail, found, same⟩ := Option.map_eq_some_iff.1 cut
      obtain ⟨rfl, rfl⟩ : [] = before ∧ tail = rest := by simpa using same
      exact Nat.zero_le _
  | cons c cs ih =>
      rw [cutAt] at cut
      split at cut
      · obtain ⟨rfl, -⟩ : [] = before ∧ _ := by simpa using cut
        exact Nat.zero_le _
      · next missed =>
          obtain ⟨⟨head, tail⟩, found, same⟩ := Option.map_eq_some_iff.1 cut
          obtain ⟨rfl, rfl⟩ : c :: head = before ∧ tail = rest := by simpa using same
          cases place with
          | zero => exact absurd stands (afterLead?_eq_none.1 missed)
          | succ place => exact Nat.succ_le_succ (ih found (standsAt_succ.1 stands))

theorem cutAt_eq_none : cutAt marker cs = none ↔ ∀ place, ¬ StandsAt marker cs place := by
  induction cs with
  | nil =>
      rw [cutAt, Option.map_eq_none_iff, afterLead?_eq_none]
      simp [StandsAt]
  | cons c cs ih =>
      rw [cutAt]
      cases found : afterLead? marker (c :: cs) with
      | some rest =>
          have stands : StandsAt marker (c :: cs) 0 := ⟨rest, afterLead?_eq_some.1 found⟩
          exact iff_of_false (Option.some_ne_none _) fun nowhere => nowhere 0 stands
      | none =>
          dsimp only
          rw [Option.map_eq_none_iff, ih]
          constructor
          · intro nowhere place
            cases place with
            | zero => exact afterLead?_eq_none.1 found
            | succ place => exact nowhere place
          · exact fun nowhere place => nowhere (place + 1)

/-- A cut is made at the first place where the marker stands, counted in the part that it ends. -/
theorem cutAt_eq_some_iff : cutAt marker cs = some (before, rest) ↔
    before ++ marker ++ rest = cs ∧
      ∀ place, StandsAt marker (before ++ marker) place → before.length ≤ place := by
  constructor
  · intro cut
    obtain rfl := append_of_cutAt cut
    exact ⟨rfl, fun place stands => le_of_cutAt cut stands.append⟩
  · rintro ⟨rfl, first⟩
    have here := standsAt_between before marker rest
    cases cut : cutAt marker (before ++ marker ++ rest) with
    | none => exact absurd here (cutAt_eq_none.1 cut _)
    | some parts =>
        obtain ⟨before', rest'⟩ := parts
        have same := append_of_cutAt cut
        have early : before'.length ≤ before.length := le_of_cutAt cut here
        have there : StandsAt marker (before ++ marker ++ rest) before'.length := by
          rw [← same]
          exact standsAt_between before' marker rest'
        have length : before'.length = before.length :=
          Nat.le_antisymm early
            (first _ (there.of_append (by rw [List.length_append]; omega)))
        rw [List.append_assoc, List.append_assoc] at same
        obtain ⟨rfl, right⟩ := List.append_inj same length
        rw [List.append_cancel_left right]

end Cuts

/-! ## Literals -/

namespace Quoted
variable {c : Char} {cs body value rest : List Char}

/-- The value of a literal and what follows it, from behind its opening quote on. -/
def read : List Char → Option (List Char × List Char)
  | [] => none
  | ['\\'] => none
  | '\\' :: c :: rest =>
      let value := if c = 'n' then '\n' else if c = 'r' then '\r' else c
      (read rest).map fun result => (value :: result.1, result.2)
  | c :: rest =>
      if c = '\'' then some ([], rest)
      else if c = '\n' || c = '\r' then none
      else (read rest).map fun result => (c :: result.1, result.2)

theorem decode_cons (other : c ≠ '\\') (cs : List Char) : decode (c :: cs) =
    if c = '\'' || c = '\n' || c = '\r' then none else (decode cs).map (c :: ·) := by
  rw [decode]
  · exact fun slash => absurd slash other
  · exact fun _ _ slash => absurd slash other

theorem read_cons (other : c ≠ '\\') (cs : List Char) : read (c :: cs) =
    if c = '\'' then some ([], cs)
    else if c = '\n' || c = '\r' then none
    else (read cs).map fun result => (c :: result.1, result.2) := by
  rw [read]
  · exact fun slash => absurd slash other
  · exact fun _ _ slash => absurd slash other

theorem decode_encodeChar_append (c : Char) (rest : List Char) :
    decode (encodeChar c ++ rest) = (decode rest).map (c :: ·) := by
  unfold encodeChar
  split
  · next isSlash => rw [isSlash]; rfl
  · next notSlash =>
    split
    · next isQuote => rw [isQuote]; rfl
    · next notQuote =>
      split
      · next isLineFeed => rw [isLineFeed]; rfl
      · next notLineFeed =>
        split
        · next isReturn => rw [isReturn]; rfl
        · next notReturn =>
          split
          · next isDollar => rw [isDollar]; rfl
          · rw [List.singleton_append, decode_cons notSlash]
            simp [notQuote, notLineFeed, notReturn]

/-- What is written for a value is read as that value. -/
theorem decode_encode (value : List Char) : decode (encode value) = some value := by
  induction value with
  | nil => rfl
  | cons c value ih =>
      rw [encode, List.flatMap_cons, decode_encodeChar_append, ← encode, ih]
      rfl

/-- A literal ends at the first quote that may stand behind its body. -/
theorem read_append_quote (rest : List Char) (decoded : decode body = some value) :
    read (body ++ '\'' :: rest) = some (value, rest) := by
  have plain {c : Char} {body : List Char} (lone : c = '\\' → body = [] → False)
      (escape : ∀ d rest, c = '\\' → body = d :: rest → False) : c ≠ '\\' := by
    rintro rfl
    cases body with
    | nil => exact lone rfl rfl
    | cons d rest => exact escape d rest rfl rfl
  induction body using decode.induct generalizing value with
  | case1 =>
      obtain rfl := Option.some.inj decoded
      rfl
  | case2 => cases decoded
  | case3 c body ih =>
      rw [decode] at decoded
      obtain ⟨inner, inside, rfl⟩ := Option.map_eq_some_iff.1 decoded
      rw [List.cons_append, List.cons_append, read, ih inside]
      rfl
  | case4 c body lone escape illegal =>
      rw [decode_cons (plain lone escape), if_pos illegal] at decoded
      cases decoded
  | case5 c body lone escape legal ih =>
      rw [decode_cons (plain lone escape), if_neg legal] at decoded
      obtain ⟨inner, inside, rfl⟩ := Option.map_eq_some_iff.1 decoded
      obtain ⟨notQuote, noBreak⟩ : c ≠ '\'' ∧ ¬ (c = '\n' || c = '\r') = true := by
        simpa [and_assoc] using legal
      rw [List.cons_append, read_cons (plain lone escape), if_neg notQuote, if_neg noBreak, ih inside]
      rfl

/-- The body is that of a literal for the value, and the first quote behind it closes the literal. -/
structure Spells (body value : List Char) : Prop where
  decoded : decode body = some value
  closed : ∀ rest, read (body ++ '\'' :: rest) = some (value, rest)

theorem spells_encode (value : List Char) : Spells (encode value) value :=
  ⟨decode_encode value, fun rest => read_append_quote rest (decode_encode value)⟩

theorem toList_literal (s : String) :
    (literal s).toList = '\'' :: encode s.toList ++ ['\''] := by
  simp [literal]

end Quoted

/-! ## Bytes -/

theorem byteLength_append (cs rest : List Char) :
    byteLength (cs ++ rest) = byteLength cs + byteLength rest := by
  induction cs with
  | nil => exact (Nat.zero_add _).symm
  | cons c cs ih =>
      change c.utf8Size + byteLength (cs ++ rest) = c.utf8Size + byteLength cs + byteLength rest
      rw [ih, Nat.add_assoc]

/-- The length of a text in bytes is the size of its encoding. -/
theorem size_utf8Encode (cs : List Char) : cs.utf8Encode.size = byteLength cs := by
  induction cs with
  | nil => rfl
  | cons c cs ih =>
      rw [List.utf8Encode_cons, ByteArray.size_append, ih, List.utf8Encode_singleton,
        List.size_toByteArray, String.length_utf8EncodeChar]
      rfl

theorem utf8ByteSize_eq (s : String) : s.utf8ByteSize = byteLength s.toList := by
  rw [← size_utf8Encode, String.utf8Encode_toList]
  rfl

theorem utf8ByteSize_ofList (cs : List Char) : (String.ofList cs).utf8ByteSize = byteLength cs := by
  rw [utf8ByteSize_eq, String.toList_ofList]

end ComponentMarkup.Text
