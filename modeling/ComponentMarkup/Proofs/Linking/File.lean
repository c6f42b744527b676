import ComponentMarkup.Proofs.Linking.Scope

/-!
What linking a file for the first time or again makes of the file and of the components. Apart from
the flags each step changes one component, and a second time it changes nothing.
-/

namespace ComponentMarkup

/-! ## Components without their flags -/

/-- All of a component but its flag. -/
def Component.bare (c : Component) : Component := { c with hasConflict := false }

namespace ComponentTable
variable {t u : ComponentTable} {id n : ComponentId}

def bare (t : ComponentTable) (id : ComponentId) : Option Component :=
  (t.get? id).map Component.bare

theorem bare_update (t : ComponentTable) (id n : ComponentId) {f : Component → Component}
    (blind : ∀ c, (f c).bare = f c.bare) :
    (t.update id f).bare n = if id = n then (t.bare n).map f else t.bare n := by
  unfold bare
  rw [get?_update]
  split
  · rw [Option.map_map, Option.map_map]
    exact Option.map_congr fun c _ => blind c
  · rfl

theorem bare_flag (t : ComponentTable) (id n : ComponentId) :
    (t.update id fun c => { c with hasConflict := true }).bare n = t.bare n :=
  t.map_get?_update id n Component.bare _ fun _ => rfl

theorem get?_eq_of_bare (bare : t.bare id = u.bare id)
    (flag : t.hasConflict id = u.hasConflict id) : t.get? id = u.get? id := by
  unfold ComponentTable.bare at bare
  rw [hasConflict_eq_map, hasConflict_eq_map] at flag
  cases found : t.get? id with
  | none =>
      rw [found, Option.map_none] at bare
      exact (Option.map_eq_none_iff.1 bare.symm).symm
  | some c =>
      rw [found, Option.map_some] at bare
      obtain ⟨c', found', same⟩ := Option.map_eq_some_iff.1 bare.symm
      rw [found, found'] at flag
      rw [found']
      have eta (c : Component) : { c.bare with hasConflict := c.hasConflict } = c := rfl
      change c.hasConflict = c'.hasConflict at flag
      rw [← eta c, ← eta c', same, flag]

end ComponentTable

namespace Linking
variable {t : ComponentTable} {file : Path} {scripts : OrderedMap Path CodeUnit} {l : Linking}
  {id n : ComponentId}

/-! ## Steps -/

theorem bare_supply (scripts : OrderedMap Path CodeUnit) (c : Component) :
    (supply scripts c).bare = supply scripts c.bare := rfl

theorem bare_rebase (scope : Scope) (id : ComponentId) (c : Component) :
    (rebase scope id c).bare = rebase scope id c.bare := rfl

theorem supply_supply (scripts : OrderedMap Path CodeUnit) (c : Component) :
    supply scripts (supply scripts c) = supply scripts c := by
  simp [supply, Option.or_assoc]

theorem rebase_rebase (scope : Scope) (id : ComponentId) (c : Component) :
    rebase scope id (rebase scope id c) = rebase scope id c := by
  simp [rebase, baseIn, ← Option.or_assoc]

theorem supply_rebase (scripts : OrderedMap Path CodeUnit) (scope : Scope) (id : ComponentId)
    (c : Component) : supply scripts (rebase scope id c) = rebase scope id (supply scripts c) := rfl

theorem agrees_register (file : Path) (l : Linking) (id : ComponentId) :
    l.components.Agrees (l.register file id).components :=
  (registers_register file l id).agrees

theorem bare_register (file : Path) (l : Linking) (id n : ComponentId) :
    (l.register file id).components.bare n = l.components.bare n := by
  have registers := registers_register file l id
  generalize l.register file id = l' at registers ⊢
  cases registers with
  | absent absent => rfl
  | admitted present free => rfl
  | settled present taken quiet => rfl
  | clashes present taken keeper different visible unflagged =>
      exact l.components.bare_flag _ n

/-! ## Loops -/

/-- A loop of steps that each change one component, and nothing when it is the second time. -/
theorem bare_foldl {step : Linking → ComponentId → Linking} {P : Linking → Prop}
    {f : ComponentId → Component → Component} (again : ∀ id c, f id (f id c) = f id c)
    (keeps : ∀ l id, P l → P (step l id))
    (acts : ∀ l id n, P l → (step l id).components.bare n =
      if id = n then (l.components.bare n).map (f n) else l.components.bare n)
    (more : List ComponentId) (holds : P l) (n : ComponentId) :
    (more.foldl step l).components.bare n =
      if n ∈ more then (l.components.bare n).map (f n) else l.components.bare n := by
  induction more generalizing l with
  | nil => simp
  | cons id more ih =>
      rw [List.foldl_cons, ih (keeps l id holds), acts l id n holds]
      by_cases here : id = n
      · subst here
        have twice : (fun c => f id (f id c)) = f id := by
          funext c
          exact again id c
        by_cases later : id ∈ more
        · simp [later, Function.comp_def, twice]
        · simp [later]
      · simp [here, Ne.symm here]

theorem agrees_declareOwn (scripts : OrderedMap Path CodeUnit) (file : Path) (l : Linking)
    (id : ComponentId) : l.components.Agrees (declareOwn scripts file l id).components :=
  (agrees_register file l id).trans (agrees_attachCode scripts _ id)

theorem bare_declareOwn (scripts : OrderedMap Path CodeUnit) (file : Path) (l : Linking)
    (id n : ComponentId) : (declareOwn scripts file l id).components.bare n =
      if id = n then (l.components.bare n).map (supply scripts) else l.components.bare n := by
  rw [declareOwn, components_attachCode, ComponentTable.bare_update _ _ _ (bare_supply scripts),
    bare_register]

theorem bare_foldl_register (file : Path) (more : List ComponentId) (l : Linking)
    (n : ComponentId) :
    (more.foldl (register file) l).components.bare n = l.components.bare n := by
  induction more generalizing l with
  | nil => rfl
  | cons id more ih => rw [List.foldl_cons, ih, bare_register]

theorem bare_findBase {scope : Scope} (same : l.scope = scope) (id n : ComponentId) :
    (l.findBase id).components.bare n =
      if id = n then (l.components.bare n).map (rebase scope n) else l.components.bare n := by
  rw [components_findBase, ComponentTable.bare_update _ _ _ (bare_rebase l.scope id), same]
  split
  · next here => rw [here]
  · rfl

theorem hasConflict_foldl_findBase (more : List ComponentId) (l : Linking) (c : ComponentId) :
    (more.foldl findBase l).components.hasConflict c = l.components.hasConflict c := by
  induction more generalizing l with
  | nil => rfl
  | cons id more ih =>
      rw [List.foldl_cons, ih, components_findBase]
      exact l.components.hasConflict_update id c _ fun _ => rfl

theorem scope_foldl_findBase (more : List ComponentId) (l : Linking) :
    (more.foldl findBase l).scope = l.scope := by
  induction more generalizing l with
  | nil => rfl
  | cons id more ih => rw [List.foldl_cons, ih, scope_findBase]

end Linking

/-! ## Files -/

section Again
variable {t u : ComponentTable} {files : OrderedMap Path SourceFile} {file : SourceFile}
  (scripts : OrderedMap Path CodeUnit)

/-- A file is linked for the first time, or again after that. -/
structure Relinks (t : ComponentTable) (files : OrderedMap Path SourceFile) (file : SourceFile)
    (u : ComponentTable) : Prop where
  agrees : t.Agrees u
  scope : file.scope = {} ∨ file.scope = Linking.scopeOf t (candidates files file) ∧
    ∀ c, Linking.Clashes t file.path (candidates files file) c → u.hasConflict c = true

variable (relinks : Relinks t files file u)
include relinks

theorem Relinks.agrees_linking : t.Agrees (linking files scripts u file).components :=
  relinks.agrees.trans <|
    (Linking.agrees_foldl (Linking.agrees_declareOwn scripts file.path) file.declared _).trans
      (Linking.agrees_foldl (Linking.agrees_register file.path) _ _)

theorem Relinks.scope_linking :
    (linking files scripts u file).scope = Linking.scopeOf t (candidates files file) := by
  have own := Linking.scope_foldl (Linking.agrees_declareOwn scripts file.path)
    (fun l id => (Linking.scope_attachCode scripts _ id).trans (Linking.scope_register file.path l id))
    (t := t) file.declared
    (l := { scope := file.scope, components := u, reports := (attachFileCode scripts file).2 })
    relinks.agrees
  have all := Linking.scope_foldl (Linking.agrees_register file.path)
    (fun l id => Linking.scope_register file.path l id) (importedBy files file.componentLinks)
    (relinks.agrees.trans (Linking.agrees_foldl (Linking.agrees_declareOwn scripts file.path)
      file.declared
      { scope := file.scope, components := u, reports := (attachFileCode scripts file).2 }))
  rw [linking, all, own, ← List.foldl_append]
  change (candidates files file).foldl (Linking.takeIn t) file.scope = _
  rcases relinks.scope with fresh | ⟨again, -⟩
  · rw [fresh]
    rfl
  · rw [again]
    exact Linking.foldl_takeIn_scopeOf fun _ member => member

/-- The loops start with no component registered, or with all of them. -/
theorem Relinks.registered (reports : Diagnostics) : ∃ ids,
    Linking.Registered u file.path ids { scope := file.scope, components := u, reports } ∧
      ∀ c, Linking.Clashes u file.path (ids ++ candidates files file) c ↔
        Linking.Clashes u file.path (candidates files file) c := by
  rcases relinks.scope with fresh | ⟨again, flagged⟩
  · exact ⟨[], .start { scope := file.scope, components := u, reports } fresh, fun c => Iff.rfl⟩
  · refine ⟨candidates files file, ⟨.refl u, fun tag => ?_, fun c => ?_⟩, fun c => ?_⟩
    · rw [again, Linking.find?_scopeOf, Linking.chosen_congr relinks.agrees]
    · refine (or_iff_left_of_imp ?_).symm
      intro clashes
      exact flagged c (clashes.congr relinks.agrees.symm)
    · exact Linking.clashes_append_self

theorem Relinks.hasConflict_linking (c : ComponentId) :
    (linking files scripts u file).components.hasConflict c = true ↔
      u.hasConflict c = true ∨ Linking.Clashes t file.path (candidates files file) c := by
  obtain ⟨ids, start, same⟩ := relinks.registered (attachFileCode scripts file).2
  have own := start.foldl_declared scripts file.declared
  have all := own.foldl_register (importedBy files file.componentLinks)
  rw [List.append_assoc] at all
  have agree : Linking.Clashes u file.path (candidates files file) c ↔
      Linking.Clashes t file.path (candidates files file) c :=
    ⟨.congr relinks.agrees.symm, .congr relinks.agrees⟩
  exact (all.flagged c).trans (or_congr_right ((same c).trans agree))

omit relinks in
theorem bare_linking (files : OrderedMap Path SourceFile) (u : ComponentTable) (file : SourceFile)
    (n : ComponentId) : (linking files scripts u file).components.bare n =
    if n ∈ file.declared then (u.bare n).map (Linking.supply scripts) else u.bare n := by
  rw [linking, Linking.bare_foldl_register]
  apply Linking.bare_foldl (P := fun _ => True) (f := fun _ => Linking.supply scripts)
  · exact fun _ c => Linking.supply_supply scripts c
  · exact fun _ _ _ => trivial
  · exact fun l id n _ => Linking.bare_declareOwn scripts file.path l id n
  · trivial

/-! ## What linking a file makes -/

theorem Relinks.fst_linkFile : (linkFile files scripts u file).1 =
    { file.supplied scripts with scope := Linking.scopeOf t (candidates files file) } := by
  rw [linkFile_eq_linking]
  dsimp only
  rw [Linking.scope_foldl_findBase, relinks.scope_linking]

/-- The components that are flagged in addition are those that clash in the scope of the file. -/
theorem Relinks.hasConflict_linkFile (c : ComponentId) :
    (linkFile files scripts u file).2.1.hasConflict c = true ↔
      u.hasConflict c = true ∨ Linking.Clashes t file.path (candidates files file) c := by
  rw [linkFile_eq_linking, ← relinks.hasConflict_linking scripts]
  dsimp only
  rw [Linking.hasConflict_foldl_findBase]

/-- Otherwise only the components that the file declares get a unit and a base. -/
theorem Relinks.bare_linkFile (n : ComponentId) : (linkFile files scripts u file).2.1.bare n =
    if n ∈ file.declared then
      (u.bare n).map fun c => Linking.rebase (Linking.scopeOf t (candidates files file)) n
        (Linking.supply scripts c)
    else u.bare n := by
  have based := Linking.bare_foldl
    (P := fun l => l.scope = Linking.scopeOf t (candidates files file))
    (f := Linking.rebase (Linking.scopeOf t (candidates files file)))
    (Linking.rebase_rebase _) (fun l id same => (Linking.scope_findBase l id).trans same)
    (fun l id n same => Linking.bare_findBase same id n) file.declared
    (relinks.scope_linking scripts) n
  rw [linkFile_eq_linking]
  dsimp only
  rw [based, bare_linking]
  split
  · rw [Option.map_map]
    rfl
  · rfl

end Again
end ComponentMarkup
