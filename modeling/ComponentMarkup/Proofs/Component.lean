import ComponentMarkup.Component

/-!
Tables of components. What a component was declared as never changes; its flag, its base, its code
and what it uses are found later.
-/

namespace ComponentMarkup

/-- The part of a component that its declaration fixes. -/
def Component.declaration (c : Component) : Component :=
  { c with base := none, hasConflict := false, code := none, used := [] }

/-- The component as it is declared in a document whose nodes have other numbers. -/
def Component.relocated (ρ : NodeId → NodeId) (c : Component) : Component :=
  { c with element := ρ c.element, template := c.template.map ρ }

namespace Component
variable {c c' : Component} (same : c'.declaration = c.declaration)
include same

theorem tag_of_declaration : c'.tag = c.tag := by
  change c'.declaration.tag = c.declaration.tag
  rw [same]

theorem file_of_declaration : c'.file = c.file := by
  change c'.declaration.file = c.declaration.file
  rw [same]

theorem element_of_declaration : c'.element = c.element := by
  change c'.declaration.element = c.declaration.element
  rw [same]

theorem template_of_declaration : c'.template = c.template := by
  change c'.declaration.template = c.declaration.template
  rw [same]

end Component

namespace ComponentTable
variable (t : ComponentTable) (id n : ComponentId)

theorem get?_eq_none {t : ComponentTable} {id : ComponentId} (outside : t.size ≤ id) :
    t.get? id = none :=
  Array.getElem?_eq_none outside

theorem get?_update (f : Component → Component) :
    (t.update id f).get? n = if id = n then (t.get? n).map f else t.get? n := by
  simp only [get?, update, Array.getElem?_modify]

theorem map_get?_update {α : Type} (g : Component → α) (f : Component → Component)
    (same : ∀ c, g (f c) = g c) : ((t.update id f).get? n).map g = (t.get? n).map g := by
  rw [get?_update]
  split
  · rw [Option.map_map]
    exact Option.map_congr fun c _ => same c
  · rfl

theorem hasConflict_eq_map : t.hasConflict n = ((t.get? n).map Component.hasConflict).getD false := by
  rw [hasConflict]
  cases t.get? n <;> rfl

theorem hasConflict_update (f : Component → Component)
    (same : ∀ c, (f c).hasConflict = c.hasConflict) :
    (t.update id f).hasConflict n = t.hasConflict n := by
  rw [hasConflict_eq_map, hasConflict_eq_map, t.map_get?_update id n _ f same]

theorem hasConflict_flag {c : Component} (found : t.get? id = some c) :
    (t.update id fun c => { c with hasConflict := true }).hasConflict n = true ↔
      t.hasConflict n = true ∨ n = id := by
  rw [hasConflict_eq_map, hasConflict_eq_map, get?_update]
  by_cases here : id = n
  · subst here
    simp [found]
  · simp [here, Ne.symm here]

theorem ext_get? {t u : ComponentTable} (same : ∀ id, t.get? id = u.get? id) : t = u := by
  obtain ⟨components⟩ := t
  obtain ⟨components'⟩ := u
  congr 1
  exact Array.ext_getElem? same

theorem update_congr {f g : Component → Component}
    (same : ∀ c, t.get? id = some c → f c = g c) : t.update id f = t.update id g := by
  apply ext_get?
  intro n
  rw [get?_update, get?_update]
  split
  · next here =>
    subst here
    exact Option.map_congr same
  · rfl

theorem update_eq_self {f : Component → Component}
    (same : ∀ c, t.get? id = some c → f c = c) : t.update id f = t := by
  apply ext_get?
  intro n
  rw [get?_update]
  split
  · next here =>
    subst here
    exact (Option.map_congr same).trans Option.map_id'
  · rfl

/-- The table with more components at its end. -/
def extend (components : List Component) : ComponentTable :=
  ⟨t.components ++ components.toArray⟩

theorem size_extend (components : List Component) :
    (t.extend components).size = t.size + components.length := by
  rw [size, extend, Array.size_append, List.size_toArray]
  rfl

theorem get?_extend (components : List Component) :
    (t.extend components).get? n =
      if n < t.size then t.get? n else components[n - t.size]? := by
  rw [get?, extend, size, Array.getElem?_append]
  split
  · rfl
  · exact List.getElem?_toArray

/-- Tables of the same declarations. -/
def Agrees (t u : ComponentTable) : Prop :=
  ∀ id, (u.get? id).map Component.declaration = (t.get? id).map Component.declaration

variable {t} {u v : ComponentTable}

theorem Agrees.refl (t : ComponentTable) : t.Agrees t := fun _ => rfl

theorem Agrees.trans (first : t.Agrees u) (second : u.Agrees v) : t.Agrees v :=
  fun id => (second id).trans (first id)

theorem Agrees.symm (agrees : t.Agrees u) : u.Agrees t := fun id => (agrees id).symm

theorem Agrees.update (agrees : t.Agrees u) (id : ComponentId) (f : Component → Component)
    (same : ∀ c, (f c).declaration = c.declaration) : t.Agrees (u.update id f) :=
  fun n => (u.map_get?_update id n _ f same).trans (agrees n)

theorem Agrees.exists_get? (agrees : t.Agrees u) {id : ComponentId} {c : Component}
    (found : t.get? id = some c) : ∃ c', u.get? id = some c' ∧ c'.declaration = c.declaration := by
  have same := agrees id
  rw [found, Option.map_some] at same
  exact Option.map_eq_some_iff.1 same

end ComponentTable
end ComponentMarkup
