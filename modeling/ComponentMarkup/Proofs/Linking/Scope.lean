import ComponentMarkup.Proofs.Linking
import ComponentMarkup.Proofs.Ordered

/-!
The scope that a list of components leaves. Its keys are the tags in the order in which they first
occur, and each stands for the first component that has it.
-/

namespace ComponentMarkup

/-! ## Members in the order of arrival -/

theorem foldl_addNew {α : Type} [BEq α] (xs : List α) : xs.foldl addNew [] = xs.eraseDups := by
  have loop (kept : List α) :
      xs.foldl addNew kept.reverse = List.eraseDupsBy.loop (· == ·) xs kept := by
    induction xs generalizing kept with
    | nil => rfl
    | cons x xs ih =>
        have same : kept.reverse.contains x = kept.any (x == ·) := by
          rw [List.contains_eq_any_beq, List.any_reverse]
        rw [List.foldl_cons, addNew, same, List.eraseDupsBy.loop]
        cases kept.any (x == ·) with
        | true => exact ih kept
        | false =>
            rw [← List.reverse_cons]
            exact ih (x :: kept)
  exact loop []

namespace OrderedMap
variable {κ υ : Type} [BEq κ]

theorem mem_keys_iff [LawfulBEq κ] (m : OrderedMap κ υ) (key : κ) :
    key ∈ m.keys ↔ (m.find? key).isSome = true := by
  simp [keys, find?]

end OrderedMap

namespace Linking

/-- Puts a component into a scope unless its tag is taken. -/
def takeIn (t : ComponentTable) (scope : Scope) (id : ComponentId) : Scope :=
  match t.get? id with
  | none => scope
  | some c => if (scope.find? c.tag).isSome then scope else scope.insert c.tag id

def scopeOf (t : ComponentTable) (ids : List ComponentId) : Scope := ids.foldl (takeIn t) {}

def tagsOf (t : ComponentTable) (ids : List ComponentId) : List String :=
  ids.filterMap fun id => (t.get? id).map Component.tag

variable {t u : ComponentTable} {scope : Scope} {ids more : List ComponentId} {id : ComponentId}
  {tag : String} {file : Path} {l : Linking}

/-! ## Admitting -/

theorem find?_takeIn (t : ComponentTable) (scope : Scope) (id : ComponentId) (tag : String) :
    (takeIn t scope id).find? tag = (scope.find? tag).or (chosen t [id] tag) := by
  unfold takeIn
  cases present : t.get? id with
  | none => simp [chosen_singleton_of_absent present]
  | some c =>
      rw [chosen_singleton present]
      dsimp only
      by_cases same : c.tag = tag
      · subst same
        cases found : scope.find? c.tag with
        | none => simp
        | some keeper => simp [found]
      · by_cases taken : (scope.find? c.tag).isSome = true
        · simp [taken, same]
        · simp [taken, same, OrderedMap.find?_insert_of_ne]

theorem keys_takeIn (t : ComponentTable) (scope : Scope) (id : ComponentId) :
    (takeIn t scope id).keys = (tagsOf t [id]).foldl addNew scope.keys := by
  unfold takeIn tagsOf
  cases present : t.get? id with
  | none => simp [present]
  | some c =>
      by_cases taken : (scope.find? c.tag).isSome = true
      · have member := (scope.mem_keys_iff c.tag).2 taken
        simp [present, taken, addNew, member]
      · simp [present, taken, OrderedMap.keys_insert]

theorem takeIn_congr (agrees : t.Agrees u) (scope : Scope) (id : ComponentId) :
    takeIn u scope id = takeIn t scope id := by
  unfold takeIn
  cases present : t.get? id with
  | none =>
      have same := agrees id
      rw [present, Option.map_none, Option.map_eq_none_iff] at same
      rw [same]
  | some c =>
      obtain ⟨c', present', declared⟩ := agrees.exists_get? present
      rw [present']
      simp [Component.tag_of_declaration declared]

/-! ## Closed forms -/

theorem find?_foldl_takeIn (ids : List ComponentId) (scope : Scope) (tag : String) :
    (ids.foldl (takeIn t) scope).find? tag = (scope.find? tag).or (chosen t ids tag) := by
  induction ids generalizing scope with
  | nil => simp [chosen]
  | cons id ids ih =>
      have split := chosen_append t [id] ids tag
      rw [List.singleton_append] at split
      rw [List.foldl_cons, ih, find?_takeIn, split, Option.or_assoc]

theorem keys_foldl_takeIn (ids : List ComponentId) (scope : Scope) :
    (ids.foldl (takeIn t) scope).keys = (tagsOf t ids).foldl addNew scope.keys := by
  induction ids generalizing scope with
  | nil => rfl
  | cons id ids ih =>
      have split : tagsOf t (id :: ids) = tagsOf t [id] ++ tagsOf t ids := by
        rw [tagsOf, tagsOf, tagsOf, ← List.filterMap_append, List.singleton_append]
      rw [List.foldl_cons, ih, keys_takeIn, split, List.foldl_append]

theorem find?_scopeOf (t : ComponentTable) (ids : List ComponentId) (tag : String) :
    (scopeOf t ids).find? tag = chosen t ids tag := by
  rw [scopeOf, find?_foldl_takeIn]
  rfl

theorem keys_scopeOf (t : ComponentTable) (ids : List ComponentId) :
    (scopeOf t ids).keys = (tagsOf t ids).eraseDups := by
  rw [scopeOf, keys_foldl_takeIn, ← foldl_addNew]
  rfl

/-! ## Registering again -/

theorem isSome_chosen {c : Component} (member : id ∈ ids) (present : t.get? id = some c) :
    (chosen t ids c.tag).isSome = true := by
  rw [chosen, List.find?_isSome]
  refine ⟨id, member, ?_⟩
  simp [present]

theorem foldl_takeIn_eq_self (taken : ∀ id ∈ more, ∀ c, t.get? id = some c →
    (scope.find? c.tag).isSome = true) : more.foldl (takeIn t) scope = scope := by
  induction more with
  | nil => rfl
  | cons id more ih =>
      have same : takeIn t scope id = scope := by
        unfold takeIn
        cases present : t.get? id with
        | none => rfl
        | some c => simp [taken id List.mem_cons_self c present]
      rw [List.foldl_cons, same]
      apply ih
      intro id member
      exact taken id (List.mem_cons_of_mem _ member)

/-- Components that a scope was made from change nothing when they come again. -/
theorem foldl_takeIn_scopeOf (listed : ∀ id ∈ more, id ∈ ids) :
    more.foldl (takeIn t) (scopeOf t ids) = scopeOf t ids := by
  apply foldl_takeIn_eq_self
  intro id member c present
  rw [find?_scopeOf]
  exact isSome_chosen (listed id member) present

theorem chosen_append_self (t : ComponentTable) (ids : List ComponentId) (tag : String) :
    chosen t (ids ++ ids) tag = chosen t ids tag := by
  rw [chosen_append]
  cases chosen t ids tag <;> rfl

theorem clashes_append_self {c : ComponentId} :
    Clashes t file (ids ++ ids) c ↔ Clashes t file ids c := by
  simp only [Clashes, chosen_append_self, List.mem_append, or_self]

/-! ## Registering in turn -/

theorem scope_register (file : Path) (l : Linking) (id : ComponentId) :
    (l.register file id).scope = takeIn l.components l.scope id := by
  have registers := registers_register file l id
  generalize l.register file id = l' at registers ⊢
  cases registers with
  | absent absent => simp [takeIn, absent]
  | admitted present free => simp [takeIn, present, free]
  | settled present taken quiet => simp [takeIn, present, taken]
  | clashes present taken keeper different visible unflagged => simp [takeIn, present, taken]

section Turns
variable {step : Linking → ComponentId → Linking}
  (agreeing : ∀ (l : Linking) id, l.components.Agrees (step l id).components)
include agreeing

theorem agrees_foldl (more : List ComponentId) (l : Linking) :
    l.components.Agrees (more.foldl step l).components := by
  induction more generalizing l with
  | nil => exact .refl _
  | cons id more ih => exact (agreeing l id).trans (ih _)

/-- The components are looked up in a table that keeps their declarations. -/
theorem scope_foldl (takesIn : ∀ l id, (step l id).scope = takeIn l.components l.scope id)
    (more : List ComponentId) (agrees : t.Agrees l.components) :
    (more.foldl step l).scope = more.foldl (takeIn t) l.scope := by
  induction more generalizing l with
  | nil => rfl
  | cons id more ih =>
      rw [List.foldl_cons, ih (agrees.trans (agreeing l id)), takesIn, takeIn_congr agrees]
      rfl

end Turns
end Linking
end ComponentMarkup
