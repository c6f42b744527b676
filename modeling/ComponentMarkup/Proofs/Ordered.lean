import ComponentMarkup.Ordered
import Mathlib.Data.List.Forall2

/-!
Ordered maps whose keys are compared up to an equivalence: no key is there twice, and a write to a
key that is there happens in its place.
-/

namespace ComponentMarkup.OrderedMap
variable {κ υ : Type} [BEq κ]

/-- No two entries have equal keys. -/
def Distinct (entries : List (κ × υ)) : Prop :=
  entries.Pairwise fun first second => (first.1 == second.1) = false

instance (entries : List (κ × υ)) : Decidable (Distinct entries) :=
  inferInstanceAs (Decidable (entries.Pairwise fun first second => (first.1 == second.1) = false))

theorem distinct_of_keys {entries entries' : List (κ × υ)}
    (same : entries'.map Prod.fst = entries.map Prod.fst) (distinct : Distinct entries) :
    Distinct entries' := by
  rw [Distinct, ← List.pairwise_map (f := Prod.fst) (R := fun a b => (a == b) = false)] at distinct ⊢
  rwa [same]

variable {key : κ} {value : υ}

theorem key_of_mem_write {entries : List (κ × υ)} {entry : κ × υ}
    (member : entry ∈ write key value entries) :
    entry.1 = key ∨ ∃ old ∈ entries, old.1 = entry.1 := by
  induction entries with
  | nil =>
      obtain rfl := List.mem_singleton.1 member
      exact .inl rfl
  | cons first rest ih =>
      rw [write] at member
      split at member
      · rcases List.mem_cons.1 member with rfl | later
        · exact .inr ⟨first, List.mem_cons_self, rfl⟩
        · exact .inr ⟨entry, List.mem_cons_of_mem _ later, rfl⟩
      · rcases List.mem_cons.1 member with rfl | later
        · exact .inr ⟨first, List.mem_cons_self, rfl⟩
        · refine (ih later).imp_right ?_
          rintro ⟨old, member, same⟩
          exact ⟨old, List.mem_cons_of_mem _ member, same⟩

theorem distinct_write {entries : List (κ × υ)} (distinct : Distinct entries) :
    Distinct (write key value entries) := by
  induction entries with
  | nil => exact List.pairwise_singleton _ _
  | cons entry rest ih =>
      obtain ⟨apart, distinctRest⟩ := List.pairwise_cons.1 distinct
      rw [write]
      split
      · exact List.pairwise_cons.2 ⟨apart, distinctRest⟩
      · next other =>
        refine List.pairwise_cons.2 ⟨fun written member => ?_, ih distinctRest⟩
        rcases key_of_mem_write member with isKey | ⟨old, member, same⟩
        · rw [isKey]
          exact Bool.eq_false_iff.2 other
        · rw [← same]
          exact apart old member

theorem value_of_mem_write {entries : List (κ × υ)} {entry : κ × υ}
    (member : entry ∈ write key value entries) : entry.2 = value ∨ entry ∈ entries := by
  induction entries with
  | nil =>
      obtain rfl := List.mem_singleton.1 member
      exact .inl rfl
  | cons first rest ih =>
      rw [write] at member
      split at member
      · rcases List.mem_cons.1 member with rfl | later
        · exact .inl rfl
        · exact .inr (List.mem_cons_of_mem _ later)
      · rcases List.mem_cons.1 member with rfl | later
        · exact .inr List.mem_cons_self
        · exact (ih later).imp_right (List.mem_cons_of_mem _)

theorem pairwise_write {S : υ → υ → Prop} (symm : ∀ a b, S a b → S b a)
    {entries : List (κ × υ)} (pairs : entries.Pairwise fun entry other => S entry.2 other.2)
    (new : ∀ entry ∈ entries, S entry.2 value) :
    (write key value entries).Pairwise fun entry other => S entry.2 other.2 := by
  induction entries with
  | nil => exact List.pairwise_singleton _ _
  | cons first rest ih =>
      obtain ⟨here, later⟩ := List.pairwise_cons.1 pairs
      rw [write]
      split
      · refine List.pairwise_cons.2 ⟨fun other member => ?_, later⟩
        exact symm _ _ (new other (List.mem_cons_of_mem _ member))
      · refine List.pairwise_cons.2 ⟨fun other member => ?_, ?_⟩
        · rcases value_of_mem_write member with written | old
          · rw [written]
            exact new first List.mem_cons_self
          · exact here other old
        · exact ih later fun entry member => new entry (List.mem_cons_of_mem _ member)

theorem mem_write_of_distinct [EquivBEq κ] {entries : List (κ × υ)} (distinct : Distinct entries)
    {entry : κ × υ} (member : entry ∈ write key value entries) :
    (key == entry.1) = true ∧ entry.2 = value ∨ (key == entry.1) = false ∧ entry ∈ entries := by
  induction entries with
  | nil =>
      obtain rfl := List.mem_singleton.1 member
      exact .inl ⟨BEq.rfl, rfl⟩
  | cons first rest ih =>
      obtain ⟨apart, distinctRest⟩ := List.pairwise_cons.1 distinct
      rw [write] at member
      split at member
      · next isKey =>
        rcases List.mem_cons.1 member with rfl | later
        · exact .inl ⟨BEq.symm isKey, rfl⟩
        · refine .inr ⟨?_, List.mem_cons_of_mem _ later⟩
          rw [← BEq.congr_left isKey]
          exact apart entry later
      · next other =>
        rcases List.mem_cons.1 member with rfl | later
        · refine .inr ⟨?_, List.mem_cons_self⟩
          rw [BEq.comm]
          exact Bool.eq_false_iff.2 other
        · rcases ih distinctRest later with written | ⟨different, old⟩
          · exact .inl written
          · exact .inr ⟨different, List.mem_cons_of_mem _ old⟩

theorem find?_insert [EquivBEq κ] (m : OrderedMap κ υ) (key other : κ) (value : υ) :
    (m.insert key value).find? other = if key == other then some value else m.find? other := by
  obtain ⟨entries⟩ := m
  simp only [find?, insert]
  induction entries with
  | nil =>
      rw [write, List.find?_singleton]
      split <;> rfl
  | cons entry rest ih =>
      rw [write]
      split
      · next same =>
        rw [List.find?_cons, List.find?_cons]
        dsimp only
        rw [BEq.congr_left same]
        cases key == other <;> rfl
      · next different =>
        rw [List.find?_cons, List.find?_cons]
        dsimp only
        cases hit : entry.1 == other with
        | false => exact ih
        | true =>
            -- Then `other` is not the written key, which `entry` does not have.
            have apart : (key == other) = false := by
              rw [← BEq.congr_right hit, BEq.comm]
              exact Bool.eq_false_iff.2 different
            rw [apart]
            rfl

/-! ## Modified values -/

section Modify
variable (m : OrderedMap κ υ) (key : κ) (f : υ → υ)

theorem keys_modify : (m.modify key f).keys = m.keys := by
  rw [keys, keys, modify, List.map_map]
  refine List.map_congr_left fun entry _ => ?_
  rw [Function.comp_apply]
  split <;> rfl

variable [EquivBEq κ] (other : κ)

theorem find?_modify : (m.modify key f).find? other =
    if other == key then (m.find? other).map f else m.find? other := by
  obtain ⟨entries⟩ := m
  simp only [find?, modify]
  induction entries with
  | nil => split <;> rfl
  | cons entry rest ih =>
      have kept : (if entry.1 == key then (entry.1, f entry.2) else entry).1 = entry.1 := by
        split <;> rfl
      rw [List.map_cons, List.find?_cons, List.find?_cons, kept]
      cases hit : entry.1 == other with
      | false => exact ih
      | true =>
          dsimp only
          rw [BEq.congr_left hit]
          split <;> rfl

theorem insert_modify (value : υ) :
    (m.modify key f).insert other (if other == key then f value else value) =
      (m.insert other value).modify key f := by
  obtain ⟨entries⟩ := m
  simp only [insert, modify]
  refine congrArg OrderedMap.mk ?_
  induction entries with
  | nil =>
      rw [write, List.map_nil, write, List.map_singleton]
      split <;> rfl
  | cons entry rest ih =>
      have kept : (if entry.1 == key then (entry.1, f entry.2) else entry) =
          (entry.1, if entry.1 == key then f entry.2 else entry.2) := by
        split <;> rfl
      rw [List.map_cons, kept, write, write]
      split
      · next same =>
        rw [List.map_cons]
        dsimp only
        rw [BEq.congr_left same]
        split <;> rfl
      · rw [List.map_cons, ih, kept]

end Modify

theorem exists_mem_of_find? {m : OrderedMap κ υ} (found : m.find? key = some value) :
    ∃ entry ∈ m.entries, entry.2 = value ∧ (entry.1 == key) = true := by
  obtain ⟨entry, first, rfl⟩ := Option.map_eq_some_iff.1 found
  exact ⟨entry, List.mem_of_find?_eq_some first, rfl, by simpa using List.find?_some first⟩

theorem contains_eq_any (m : OrderedMap κ υ) (key : κ) :
    m.contains key = m.entries.any fun entry => entry.1 == key := by
  rw [contains, find?, Option.isSome_map, Bool.eq_iff_iff, List.find?_isSome, List.any_eq_true]

/-! ## Related maps -/

section Related
variable {α β : Type} {R S : α → β → Prop} {found : Option α} {found' : Option β}

theorem exists_of_rel_some {a : α} (related : Option.Rel R (some a) found') :
    ∃ b, found' = some b ∧ R a b := by
  cases related with
  | some holds => exact ⟨_, rfl, holds⟩

theorem exists_of_rel_some' {b : β} (related : Option.Rel R found (some b)) :
    ∃ a, found = some a ∧ R a b := by
  cases related with
  | some holds => exact ⟨_, rfl, holds⟩

theorem rel_imp (related : Option.Rel R found found') (weaker : ∀ a b, R a b → S a b) :
    Option.Rel S found found' := by
  cases related with
  | none => exact .none
  | some holds => exact .some (weaker _ _ holds)

/-- Entries with the same keys, whose values are related one by one. -/
def Related (R : α → β → Prop) (entries : List (κ × α)) (entries' : List (κ × β)) :
    Prop :=
  List.Forall₂ (fun entry entry' => entry'.1 = entry.1 ∧ R entry.2 entry'.2) entries entries'

theorem Related.find? {entries : List (κ × α)}
    {entries' : List (κ × β)} (related : Related R entries entries') (key : κ) :
    Option.Rel R ((mk entries).find? key) ((mk entries').find? key) := by
  induction related with
  | nil => exact .none
  | cons first _ ih =>
      obtain ⟨same, values⟩ := first
      simp only [OrderedMap.find?, List.find?_cons, same] at ih ⊢
      split
      · exact .some values
      · exact ih

end Related

/-! ## Entries in their places -/

section Places
variable {before after : List (κ × υ)}

theorem not_beq_of_distinct (distinct : Distinct (before ++ (key, value) :: after))
    {entry : κ × υ} (member : entry ∈ before) : (entry.1 == key) = false :=
  (List.pairwise_append.1 distinct).2.2 entry member (key, value) List.mem_cons_self

theorem find?_of_other {entry : κ × υ} (other : (entry.1 == key) = false) :
    (mk (before ++ entry :: after)).find? key =
      ((mk before).find? key).or ((mk after).find? key) := by
  rw [find?, List.find?_append, List.find?_cons, other, Option.map_or]
  rfl

variable [EquivBEq κ]

/-- What comes early does not come again. -/
theorem find?_eq_none_of_distinct {entry : κ × υ} (distinct : Distinct (before ++ entry :: after))
    (found : (mk before).find? key = some value) : (mk after).find? key = none := by
  obtain ⟨first, member, -, isKey⟩ := exists_mem_of_find? found
  rw [find?, Option.map_eq_none_iff, List.find?_eq_none]
  intro later member' same
  have apart := (List.pairwise_append.1 distinct).2.2 first member later
    (List.mem_cons_of_mem _ member')
  rw [BEq.trans isKey (BEq.symm same)] at apart
  cases apart

theorem eq_of_distinct {entries : List (κ × υ)} (distinct : Distinct entries)
    {entry other : κ × υ} (member : entry ∈ entries) (member' : other ∈ entries)
    (same : (entry.1 == other.1) = true) : other = entry := by
  obtain ⟨before, after, rfl⟩ := List.append_of_mem member
  rcases List.mem_append.1 member' with earlier | here
  · rw [BEq.comm, not_beq_of_distinct distinct earlier] at same
    cases same
  · rcases List.mem_cons.1 here with equal | later
    · exact equal
    · have apart := (List.pairwise_cons.1 (List.pairwise_append.1 distinct).2.1).1 other later
      rw [apart] at same
      cases same

theorem find?_of_distinct (distinct : Distinct (before ++ (key, value) :: after)) :
    (mk (before ++ (key, value) :: after)).find? key = some value := by
  induction before with
  | nil => simp [find?]
  | cons entry before ih =>
      have other := not_beq_of_distinct distinct List.mem_cons_self
      have found := ih (List.pairwise_cons.1 distinct).2
      simpa [find?, other] using found

theorem find?_of_mem {entries : List (κ × υ)} (distinct : Distinct entries) {entry : κ × υ}
    (member : entry ∈ entries) : (mk entries).find? entry.1 = some entry.2 := by
  obtain ⟨before, after, rfl⟩ := List.append_of_mem member
  exact find?_of_distinct distinct

theorem exists_find?_iff {m : OrderedMap κ υ} (distinct : Distinct m.entries) (P : υ → Prop) :
    (∃ key value, m.find? key = some value ∧ P value) ↔ ∃ entry ∈ m.entries, P entry.2 := by
  constructor
  · rintro ⟨key, value, found, holds⟩
    obtain ⟨entry, member, rfl, -⟩ := exists_mem_of_find? found
    exact ⟨entry, member, holds⟩
  · rintro ⟨entry, member, holds⟩
    exact ⟨entry.1, entry.2, find?_of_mem distinct member, holds⟩

theorem write_of_distinct (distinct : Distinct (before ++ (key, value) :: after)) (value' : υ) :
    write key value' (before ++ (key, value) :: after) = before ++ (key, value') :: after := by
  induction before with
  | nil => simp [write]
  | cons entry before ih =>
      have other := not_beq_of_distinct distinct List.mem_cons_self
      rw [List.cons_append, write, if_neg (by rw [other]; exact Bool.false_ne_true),
        ih (List.pairwise_cons.1 distinct).2]
      rfl

theorem write_eq_map {entries : List (κ × υ)} {key : κ} {value : υ} (distinct : Distinct entries)
    (found : (mk entries).find? key = some value) (value' : υ) : write key value' entries =
      entries.map fun entry => if entry.1 == key then (entry.1, value') else entry := by
  induction entries with
  | nil => cases found
  | cons entry rest ih =>
      obtain ⟨apart, distinctRest⟩ := List.pairwise_cons.1 distinct
      rw [write, List.map_cons]
      cases here : entry.1 == key with
      | true =>
          -- No later entry has the key.
          have others : ∀ other ∈ rest, (if other.1 == key then (other.1, value') else other) =
              other := by
            intro other member
            have different := apart other member
            rw [BEq.congr_left here, BEq.comm] at different
            simp [different]
          simp [List.map_congr_left others]
      | false =>
          have later : (mk rest).find? key = some value := by
            simpa [find?, here] using found
          simp [ih distinctRest later]

theorem distinct_replace (distinct : Distinct (before ++ (key, value) :: after)) (value' : υ) :
    Distinct (before ++ (key, value') :: after) := by
  rw [← write_of_distinct distinct value']
  exact distinct_write distinct

end Places

section Lawful
variable [LawfulBEq κ] {m m' : OrderedMap κ υ} {before after : List (κ × υ)}

theorem exists_split (found : m.find? key = some value) :
    ∃ before after, m.entries = before ++ (key, value) :: after := by
  obtain ⟨⟨name, _⟩, member, rfl, isKey⟩ := exists_mem_of_find? found
  obtain rfl : name = key := eq_of_beq isKey
  exact List.append_of_mem member

theorem ne_of_distinct (distinct : Distinct (before ++ (key, value) :: after)) {entry : κ × υ}
    (member : entry ∈ before ++ after) : entry.1 ≠ key := by
  rcases List.mem_append.1 member with earlier | later
  · exact beq_eq_false_iff_ne.1 (not_beq_of_distinct distinct earlier)
  · exact (beq_eq_false_iff_ne.1
      ((List.pairwise_cons.1 (List.pairwise_append.1 distinct).2.1).1 entry later)).symm

theorem distinct_of_perm (distinct : Distinct m.entries) (same : m'.entries.Perm m.entries) :
    Distinct m'.entries :=
  same.symm.pairwise distinct fun apart => by rw [BEq.comm, apart]

/-- Of the entries of a map the order plays no part. -/
theorem find?_of_perm (distinct : Distinct m.entries) (same : m'.entries.Perm m.entries) (key : κ) :
    m'.find? key = m.find? key := by
  refine Option.ext fun value => ?_
  have half {m m' : OrderedMap κ υ} (distinct : Distinct m'.entries)
      (listed : ∀ entry ∈ m.entries, entry ∈ m'.entries) (found : m.find? key = some value) :
      m'.find? key = some value := by
    obtain ⟨entry, member, rfl, isKey⟩ := exists_mem_of_find? found
    rw [← eq_of_beq isKey]
    exact find?_of_mem distinct (listed entry member)
  exact ⟨half distinct fun entry => same.mem_iff.1,
    half (distinct_of_perm distinct same) fun entry => same.mem_iff.2⟩

end Lawful

theorem eq_of_mem_write [LawfulBEq κ] {key : κ} {value : υ} {entries : List (κ × υ)} {entry : κ × υ}
    (member : entry ∈ write key value entries) : entry = (key, value) ∨ entry ∈ entries := by
  induction entries with
  | nil => exact .inl (List.mem_singleton.1 member)
  | cons first rest ih =>
      rw [write] at member
      split at member
      · next same =>
        rw [eq_of_beq same] at member
        exact (List.mem_cons.1 member).imp_right (List.mem_cons_of_mem _)
      · rcases List.mem_cons.1 member with rfl | later
        · exact .inr List.mem_cons_self
        · exact (ih later).imp_right (List.mem_cons_of_mem _)

/-- A filter by keys that lets the key through lets the writing through. -/
theorem filter_write [LawfulBEq κ] (keep : κ → Bool) (key : κ) (value : υ) (entries : List (κ × υ)) :
    (write key value entries).filter (fun entry => keep entry.1) =
      if keep key then write key value (entries.filter fun entry => keep entry.1)
      else entries.filter fun entry => keep entry.1 := by
  induction entries with
  | nil =>
      rw [write, List.filter_nil, List.filter_cons, List.filter_nil]
      rfl
  | cons entry rest ih =>
      obtain ⟨k, v⟩ := entry
      by_cases same : k = key
      · subst same
        cases kept : keep k <;> simp [write, kept]
      · cases kept : keep k <;> cases keptKey : keep key <;>
          simp [write, same, kept, keptKey, ih]

end ComponentMarkup.OrderedMap
