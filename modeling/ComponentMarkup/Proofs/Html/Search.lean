import ComponentMarkup.Html.Locator
import ComponentMarkup.Proofs.Text

/-!
The search for start tags in a source, told by the places where the mark of a tag stands.
-/

namespace ComponentMarkup

/-! ## Places -/

namespace Position

/-- Earlier in a text. -/
def Before (p q : Position) : Prop := p.line < q.line ∨ p.line = q.line ∧ p.column < q.column

theorem Before.trans {p q r : Position} (first : p.Before q) (second : q.Before r) :
    p.Before r := by
  unfold Before at *
  omega

end Position

namespace Html

/-- The position of the character with the given number. -/
def place (text : List Char) (offset : Nat) : Position :=
  (text.take offset).foldl Position.past ⟨1, 1⟩

variable {text mark : List Char} {tag : String} {start found offset : Nat}

theorem place_add (text : List Char) (offset count : Nat) : place text (offset + count) =
    ((text.drop offset).take count).foldl Position.past (place text offset) := by
  rw [place, List.take_add, List.foldl_append]
  rfl

theorem toLower_of_wide {c : Char} (wide : 128 ≤ c.toNat) : c.toLower = c := by
  unfold Char.toLower
  refine dif_neg fun capital => ?_
  have low : c.toNat ≤ 90 := UInt32.le_iff_toNat_le.1 capital.2
  omega

/-- A small letter is as wide as its capital, and neither breaks a line. -/
theorem toLower_alike (c : Char) :
    c.toLower.utf8Size = c.utf8Size ∧ (c.toLower = '\n' ↔ c = '\n') := by
  rcases Nat.lt_or_ge c.toNat 128 with low | wide
  · have checked : ∀ n < 128, (Char.ofNat n).toLower.utf8Size = (Char.ofNat n).utf8Size ∧
        ((Char.ofNat n).toLower = '\n' ↔ Char.ofNat n = '\n') := by decide +kernel
    simpa [Char.ofNat_toNat] using checked c.toNat low
  · rw [toLower_of_wide wide]
    exact ⟨rfl, Iff.rfl⟩

theorem past_toLower (p : Position) (c : Char) : p.past c.toLower = p.past c := by
  obtain ⟨size, feed⟩ := toLower_alike c
  simp only [Position.past, size, feed]

theorem place_map_toLower (text : List Char) (offset : Nat) :
    place (text.map Char.toLower) offset = place text offset := by
  rw [place, place, ← List.map_take, List.foldl_map]
  simp only [past_toLower]

/-! ## Marks -/

/-- What a search for a tag looks for. -/
def markOf (tag : String) : List Char := '<' :: tag.toList

theorem markOf_ne_nil (tag : String) : markOf tag ≠ [] := List.cons_ne_nil _ _

theorem length_markOf (tag : String) : (markOf tag).length = tag.toList.length + 1 := rfl

/-- A mark stands here, and the name ends behind it. -/
def IsMark (text mark : List Char) (offset : Nat) : Prop :=
  Text.StandsAt mark text offset ∧ Locator.endsHere (text.drop (offset + mark.length)) = true

/-- A search from `start` ends here. Behind a mark where the name goes on it passes the whole
mark. -/
inductive Finds (text mark : List Char) : Nat → Nat → Prop
  | here {start : Nat} (isMark : IsMark text mark start) : Finds text mark start start
  | next {start found : Nat} (misses : ¬ Text.StandsAt mark text start)
      (later : Finds text mark (start + 1) found) : Finds text mark start found
  | pass {start found : Nat} (stands : Text.StandsAt mark text start)
      (goesOn : Locator.endsHere (text.drop (start + mark.length)) = false)
      (later : Finds text mark (start + mark.length) found) : Finds text mark start found

theorem Finds.le (finds : Finds text mark start found) : start ≤ found := by
  induction finds with
  | here => exact Nat.le_refl _
  | next misses later ih => omega
  | pass stands goesOn later ih => omega

theorem Finds.isMark (finds : Finds text mark start found) : IsMark text mark found := by
  induction finds with
  | here isMark => exact isMark
  | next misses later ih => exact ih
  | pass stands goesOn later ih => exact ih

theorem finds_iff_eq (isMark : IsMark text mark start) :
    Finds text mark start found ↔ found = start := by
  constructor
  · rintro (_ | ⟨misses, -⟩ | ⟨-, goesOn, -⟩)
    · rfl
    · exact absurd isMark.1 misses
    · exact absurd (goesOn.symm.trans isMark.2) Bool.false_ne_true
  · rintro rfl
    exact .here isMark

theorem finds_iff_next (misses : ¬ Text.StandsAt mark text start) :
    Finds text mark start found ↔ Finds text mark (start + 1) found := by
  constructor
  · rintro (isMark | ⟨-, later⟩ | ⟨stands, -, -⟩)
    · exact absurd isMark.1 misses
    · exact later
    · exact absurd stands misses
  · exact .next misses

theorem finds_iff_pass (stands : Text.StandsAt mark text start)
    (goesOn : Locator.endsHere (text.drop (start + mark.length)) = false) :
    Finds text mark start found ↔ Finds text mark (start + mark.length) found := by
  constructor
  · rintro (isMark | ⟨misses, -⟩ | ⟨-, -, later⟩)
    · exact absurd (goesOn.symm.trans isMark.2) Bool.false_ne_true
    · exact absurd stands misses
    · exact later
  · exact .pass stands goesOn

/-- Where no mark stands nothing is found. -/
theorem finds_iff_of_misses {there : Nat} (ahead : start ≤ there)
    (misses : ∀ offset, start ≤ offset → offset < there → ¬ Text.StandsAt mark text offset) :
    Finds text mark start found ↔ Finds text mark there found := by
  obtain ⟨count, rfl⟩ := Nat.exists_eq_add_of_le ahead
  induction count with
  | zero => rfl
  | succ count ih =>
      rw [ih (Nat.le_add_right _ _) fun offset after before => misses offset after (by omega)]
      exact finds_iff_next (misses _ (Nat.le_add_right _ _) (by omega))

/-- A search ends at one place. -/
theorem Finds.unique {other : Nat} (finds : Finds text mark start found)
    (finds' : Finds text mark start other) : found = other := by
  induction finds with
  | here isMark => exact ((finds_iff_eq isMark).1 finds').symm
  | next misses later ih => exact ih ((finds_iff_next misses).1 finds')
  | pass stands goesOn later ih => exact ih ((finds_iff_pass stands goesOn).1 finds')

theorem Finds.lt_length (nonempty : mark ≠ []) (finds : Finds text mark start found) :
    found < text.length := by
  refine Nat.lt_of_not_le fun outside => ?_
  have stands := finds.isMark.1
  rw [Text.StandsAt, List.drop_eq_nil_iff.2 outside, List.prefix_nil] at stands
  exact nonempty stands

theorem getElem?_of_standsAt (stands : Text.StandsAt mark text start) {i : Nat}
    (inside : i < mark.length) : text[start + i]? = mark[i]? := by
  obtain ⟨rest, same⟩ := stands
  rw [← List.getElem?_drop, ← same, List.getElem?_append_left inside]

/-- Marks of one tag lie apart when the name of the tag has no `<` in it. -/
theorem le_of_standsAt (noOpen : '<' ∉ tag.toList)
    (stands : Text.StandsAt (markOf tag) text start)
    (stands' : Text.StandsAt (markOf tag) text offset) (later : start < offset) :
    start + (markOf tag).length ≤ offset := by
  refine Nat.le_of_not_lt fun inside => ?_
  obtain ⟨i, rfl⟩ := Nat.exists_eq_add_of_lt later
  have length := length_markOf tag
  have first := getElem?_of_standsAt stands (i := i + 1) (by omega)
  have second := getElem?_of_standsAt stands' (i := 0) (Nat.zero_lt_succ _)
  rw [Nat.add_zero, Nat.add_assoc, first] at second
  exact noOpen (List.mem_of_getElem? second)

/-- Where no mark can begin inside another, a search ends at the first mark. -/
theorem finds_iff (noOpen : '<' ∉ tag.toList) : Finds text (markOf tag) start found ↔
    start ≤ found ∧ IsMark text (markOf tag) found ∧
      ∀ offset, start ≤ offset → offset < found → ¬ IsMark text (markOf tag) offset := by
  constructor
  · intro finds
    refine ⟨finds.le, finds.isMark, ?_⟩
    induction finds with
    | here => exact fun offset from' before => absurd from' (Nat.not_le.2 before)
    | next misses later ih =>
        intro offset from' before isMark
        rcases Nat.eq_or_lt_of_le from' with rfl | behind
        · exact misses isMark.1
        · exact ih offset behind before isMark
    | pass stands goesOn later ih =>
        intro offset from' before isMark
        rcases Nat.eq_or_lt_of_le from' with rfl | behind
        · exact Bool.false_ne_true (goesOn.symm.trans isMark.2)
        · exact ih offset (le_of_standsAt noOpen stands isMark.1 behind) before isMark
  · rintro ⟨from', isMark, first⟩
    generalize distance : found - start = n
    induction n using Nat.strongRecOn generalizing start with
    | ind n ih =>
        rcases Nat.eq_or_lt_of_le from' with rfl | before
        · exact .here isMark
        · by_cases stands : Text.StandsAt (markOf tag) text start
          · have goesOn : Locator.endsHere (text.drop (start + (markOf tag).length)) = false :=
              Bool.eq_false_iff.2 fun ends => first start (Nat.le_refl _) before ⟨stands, ends⟩
            have apart := le_of_standsAt noOpen stands isMark.1 before
            have moved : start < start + (markOf tag).length := by simp [length_markOf]
            refine .pass stands goesOn (ih _ (by omega) apart (fun offset after => ?_) rfl)
            exact first offset (Nat.le_trans (Nat.le_of_lt moved) after)
          · refine .next stands (ih _ (by omega) before (fun offset after => ?_) rfl)
            exact first offset (Nat.le_of_succ_le after)

theorem not_exists_finds_iff (noOpen : '<' ∉ tag.toList) :
    (∀ found, ¬ Finds text (markOf tag) start found) ↔
      ∀ offset, start ≤ offset → ¬ IsMark text (markOf tag) offset := by
  constructor
  · intro nowhere offset
    induction offset using Nat.strongRecOn with
    | ind offset ih =>
        intro ahead isMark
        refine nowhere offset ((finds_iff noOpen).2 ⟨ahead, isMark, fun earlier after before => ?_⟩)
        exact ih earlier before after
  · exact fun none found finds => none found finds.le finds.isMark

/-! ## The locator -/

namespace Locator

theorem drop_eq_cons {c : Char} {rest : List Char} (split : text.drop start = c :: rest) :
    rest = text.drop (start + 1) ∧ (place text start).past c = place text (start + 1) := by
  constructor
  · rw [← List.tail_drop, split]
    rfl
  · rw [place_add, split]
    rfl

theorem seek_skip (mark : List Char) (skip : Nat) (text : List Char) (start : Nat) :
    seek mark skip (place text start) (text.drop start) =
      seek mark 0 (place text (start + skip)) (text.drop (start + skip)) := by
  induction skip generalizing start with
  | zero => rfl
  | succ skip ih =>
      cases split : text.drop start with
      | nil =>
          have past : text.drop (start + (skip + 1)) = [] := by
            rw [← List.drop_drop, split, List.drop_nil]
          rw [past, seek, seek]
      | cons c rest =>
          obtain ⟨rfl, here⟩ := drop_eq_cons split
          rw [seek, here, ih, Nat.add_assoc, Nat.add_comm 1 skip]

theorem exists_drop_eq_cons (inside : start < text.length) :
    ∃ c, text.drop start = c :: text.drop (start + 1) ∧
      (place text start).past c = place text (start + 1) := by
  have split := List.drop_eq_getElem_cons inside
  exact ⟨_, split, (drop_eq_cons split).2⟩

theorem seek_of_misses (inside : start < text.length) (misses : ¬ Text.StandsAt mark text start) :
    seek mark 0 (place text start) (text.drop start) =
      seek mark 0 (place text (start + 1)) (text.drop (start + 1)) := by
  obtain ⟨c, split, next⟩ := exists_drop_eq_cons inside
  rw [Text.StandsAt, split] at misses
  rw [split, seek, Text.afterLead?_eq_none.2 misses]
  dsimp only
  rw [next]

theorem afterLead?_of_standsAt (stands : Text.StandsAt mark text start) :
    Text.afterLead? mark (text.drop start) = some (text.drop (start + mark.length)) := by
  rw [Text.afterLead?_eq_some]
  obtain ⟨rest, whole⟩ := stands
  rw [← List.drop_drop, ← whole, List.drop_left]

theorem seek_of_isMark (inside : start < text.length) (isMark : IsMark text mark start) :
    seek mark 0 (place text start) (text.drop start) =
      some (place text start, text.drop (start + mark.length)) := by
  obtain ⟨c, split, -⟩ := exists_drop_eq_cons inside
  have met := afterLead?_of_standsAt isMark.1
  rw [split] at met
  rw [split, seek, met]
  exact if_pos isMark.2

theorem seek_of_goesOn (nonempty : mark ≠ []) (inside : start < text.length)
    (stands : Text.StandsAt mark text start)
    (goesOn : endsHere (text.drop (start + mark.length)) = false) :
    seek mark 0 (place text start) (text.drop start) =
      seek mark 0 (place text (start + mark.length)) (text.drop (start + mark.length)) := by
  obtain ⟨c, split, next⟩ := exists_drop_eq_cons inside
  have met := afterLead?_of_standsAt stands
  have length := List.length_pos_iff.2 nonempty
  have moved : start + 1 + (mark.length - 1) = start + mark.length := by omega
  rw [split] at met
  rw [split, seek, met]
  dsimp only
  rw [goesOn, if_neg Bool.false_ne_true, next, seek_skip, moved]

theorem seek_eq_some_iff (nonempty : mark ≠ []) {p : Position} {rest : List Char} :
    seek mark 0 (place text start) (text.drop start) = some (p, rest) ↔
      ∃ found, Finds text mark start found ∧ p = place text found ∧
        rest = text.drop (found + mark.length) := by
  generalize left : text.length - start = n
  induction n using Nat.strongRecOn generalizing start with
  | ind n ih =>
      by_cases inside : start < text.length
      · by_cases stands : Text.StandsAt mark text start
        · cases ends : endsHere (text.drop (start + mark.length)) with
          | true =>
              rw [seek_of_isMark inside ⟨stands, ends⟩]
              simp only [finds_iff_eq ⟨stands, ends⟩, exists_eq_left]
              simp [eq_comm]
          | false =>
              have length := List.length_pos_iff.2 nonempty
              rw [seek_of_goesOn nonempty inside stands ends, ih _ (by omega) rfl]
              simp only [finds_iff_pass stands ends]
        · rw [seek_of_misses inside stands, ih _ (by omega) rfl]
          simp only [finds_iff_next stands]
      · rw [List.drop_eq_nil_iff.2 (Nat.le_of_not_lt inside), seek]
        refine iff_of_false nofun ?_
        rintro ⟨found, finds, -⟩
        exact inside (Nat.lt_of_le_of_lt finds.le (finds.lt_length nonempty))

/-- A locator that has left this many characters behind. -/
def behind (text : List Char) (offset : Nat) : Locator :=
  { rest := text.drop offset, position := place text offset }

theorem locate_eq_some_iff {p : Position} {l : Locator} :
    (behind text start).locate tag = some (p, l) ↔ ∃ found, Finds text (markOf tag) start found ∧
      p = place text found ∧ l = behind text (found + (markOf tag).length) := by
  have past {found : Nat} (isMark : IsMark text (markOf tag) found) :
      (markOf tag).foldl Position.past (place text found) =
        place text (found + (markOf tag).length) := by
    obtain ⟨rest, whole⟩ := isMark.1
    rw [place_add, ← whole, List.take_left]
  rw [locate, Option.map_eq_some_iff]
  constructor
  · rintro ⟨⟨place', rest⟩, sought, same⟩
    obtain ⟨found, finds, rfl, rfl⟩ := (seek_eq_some_iff (List.cons_ne_nil _ _)).1 sought
    obtain ⟨rfl, rfl⟩ := Prod.mk.inj same
    exact ⟨found, finds, rfl, congrArg _ (past finds.isMark)⟩
  · rintro ⟨found, finds, rfl, rfl⟩
    exact ⟨_, (seek_eq_some_iff (List.cons_ne_nil _ _)).2 ⟨found, finds, rfl, rfl⟩,
      congrArg (fun p => (_, Locator.mk _ p)) (past finds.isMark)⟩

theorem locate_of_finds (finds : Finds text (markOf tag) start found) :
    (behind text start).locate tag =
      some (place text found, behind text (found + (markOf tag).length)) :=
  locate_eq_some_iff.2 ⟨found, finds, rfl, rfl⟩

theorem locate_eq_none (nowhere : ∀ found, ¬ Finds text (markOf tag) start found) :
    (behind text start).locate tag = none := by
  rw [Option.eq_none_iff_forall_ne_some]
  rintro ⟨p, l⟩ located
  obtain ⟨found, finds, -⟩ := locate_eq_some_iff.1 located
  exact nowhere found finds

end Locator
end Html
end ComponentMarkup
