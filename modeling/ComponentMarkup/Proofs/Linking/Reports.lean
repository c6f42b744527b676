import ComponentMarkup.Proofs.Linking.Conflicts
import ComponentMarkup.Proofs.Linking.File
import Mathlib.Algebra.GroupWithZero.Nat

/-!
What linking a file reports: errors for what it flags and supplies, which it does once, and then a
warning for each base that is missing, every time. A component that linking flags is announced: the
two errors about it stand next to each other among the reports of the step that flags it.
-/

namespace ComponentMarkup

theorem Diagnostics.ofSeverity_append (severity : Severity) (ds more : Diagnostics) :
    Diagnostics.ofSeverity severity (ds ++ more) =
      ds.ofSeverity severity ++ more.ofSeverity severity :=
  List.filter_append ..

theorem Diagnostics.ofSeverity_eq_self {severity : Severity} {ds : Diagnostics}
    (all : ∀ d ∈ ds, d.severity = severity) : ds.ofSeverity severity = ds := by
  apply List.filter_eq_self.2
  intro d member
  exact decide_eq_true (all d member)

theorem Diagnostics.ofSeverity_eq_nil {severity : Severity} {ds : Diagnostics}
    (none : ∀ d ∈ ds, d.severity ≠ severity) : ds.ofSeverity severity = [] := by
  apply List.filter_eq_nil_iff.2
  intro d member
  simpa using none d member

/-! ## Weights -/

/-- How many errors the code of a component or file stands for. -/
def CodeUnit.weight : Option CodeUnit → Nat
  | none => 0
  | some unit => if unit.isLibrary then 0 else 1

/-- How many errors the state of a component stands for. -/
def Component.weight (c : Component) : Nat :=
  (if c.hasConflict then 2 else 0) + CodeUnit.weight c.code

namespace ComponentTable

def weight (t : ComponentTable) : Nat := (t.components.toList.map Component.weight).sum

theorem sum_map_modify {α : Type} (g : α → Nat) (f : α → α) {x : α} (xs : List α) (i : Nat)
    (found : xs[i]? = some x) :
    ((xs.modify i f).map g).sum + g x = (xs.map g).sum + g (f x) := by
  induction xs generalizing i with
  | nil => cases found
  | cons y xs ih =>
      cases i with
      | zero =>
          obtain rfl := Option.some.inj found
          simp only [List.modify_zero_cons, List.map_cons, List.sum_cons]
          omega
      | succ i =>
          have rest := ih i found
          simp only [List.modify_succ_cons, List.map_cons, List.sum_cons]
          omega

variable {t : ComponentTable} {id : ComponentId} {c : Component}

theorem weight_update (f : Component → Component) (found : t.get? id = some c) :
    (t.update id f).weight + c.weight = t.weight + (f c).weight := by
  have listed : t.components.toList[id]? = some c := by
    rw [Array.getElem?_toList]
    exact found
  rw [weight, update, Array.toList_modify]
  exact sum_map_modify Component.weight f _ id listed

theorem weight_update_of_same (t : ComponentTable) (id : ComponentId) {f : Component → Component}
    (same : ∀ c, (f c).weight = c.weight) : (t.update id f).weight = t.weight := by
  cases found : t.get? id with
  | none =>
      rw [update_eq_self]
      intro c there
      cases found.symm.trans there
  | some c =>
      have moved := weight_update f found
      rw [same] at moved
      omega

end ComponentTable

namespace Linking
variable {t u : ComponentTable} {file : Path} {scripts : OrderedMap Path CodeUnit}
  {l l' l₂ : Linking} {id : ComponentId}

/-! ## Errors -/

/-- From one state to the other as many errors are reported as the components get heavier. -/
def Charges (l l' : Linking) : Prop :=
  ∃ errors, l'.reports = l.reports ++ errors ∧ (∀ d ∈ errors, d.severity = .error) ∧
    l'.components.weight = l.components.weight + errors.length

theorem Charges.refl (l : Linking) : Charges l l := ⟨[], by simp⟩

theorem Charges.trans (first : Charges l l') (second : Charges l' l₂) : Charges l l₂ := by
  obtain ⟨errors, reported, severe, heavier⟩ := first
  obtain ⟨more, reported', severe', heavier'⟩ := second
  refine ⟨errors ++ more, ?_, ?_, ?_⟩
  · rw [reported', reported, List.append_assoc]
  · intro d member
    rcases List.mem_append.1 member with early | late
    · exact severe d early
    · exact severe' d late
  · rw [heavier', heavier, List.length_append]
    omega

theorem charges_foldl {step : Linking → ComponentId → Linking}
    (charges : ∀ l id, Charges l (step l id)) (more : List ComponentId) (l : Linking) :
    Charges l (more.foldl step l) := by
  induction more generalizing l with
  | nil => exact .refl l
  | cons id more ih => exact (charges l id).trans (ih _)

theorem charges_register (file : Path) (l : Linking) (id : ComponentId) :
    Charges l (l.register file id) := by
  have registers := registers_register file l id
  generalize l.register file id = l' at registers ⊢
  cases registers with
  | absent absent => exact .refl l
  | admitted present free => exact ⟨[], by simp⟩
  | settled present taken quiet => exact .refl l
  | @clashes first second existing present taken keeper different visible unflagged =>
      refine ⟨_, reports_reportClash file l existing first second,
        severity_clashReports first second _, ?_⟩
      have moved := ComponentTable.weight_update (fun c => { c with hasConflict := true }) keeper
      simp only [Component.weight, unflagged] at moved
      simp only [components_reportClash, clashReports, List.length_cons, List.length_nil]
      simp at moved
      omega

theorem attach_charges (scripts : OrderedMap Path CodeUnit) (external owner : Path) :
    (∀ d ∈ (attach scripts external owner).2, d.severity = .error) ∧
      CodeUnit.weight (scripts.find? external) = (attach scripts external owner).2.length := by
  unfold attach
  cases scripts.find? external with
  | none => simp [CodeUnit.weight]
  | some unit =>
      dsimp only [CodeUnit.weight]
      split <;> simp [Diagnostic.severity, Problem.severity]

theorem charges_attachCode (scripts : OrderedMap Path CodeUnit) (l : Linking) (id : ComponentId) :
    Charges l (l.attachCode scripts id) := by
  unfold attachCode
  split
  · next owner _ _ _ _ _ external _ present =>
    obtain ⟨severe, heavier⟩ := attach_charges scripts external owner
    refine ⟨_, rfl, severe, ?_⟩
    have moved := ComponentTable.weight_update
      (fun c => { c with code := (attach scripts external owner).1 }) present
    simp only [Component.weight, fst_attach, CodeUnit.weight] at moved heavier ⊢
    omega
  · exact .refl l

/-! ## Warnings -/

/-- The warning about a custom element that a component extends and that is not found. -/
def notFound (base : Option ComponentId) (c : Component) : Diagnostics :=
  if base = none ∧ Tag.isCustom c.extendsTag = true then
    [⟨.unknownElement c.extendsTag, c.file, c.position⟩]
  else []

/-- The warning about a component whose base is missing from the scope. -/
def missingBase (t : ComponentTable) (scope : Scope) (id : ComponentId) : Diagnostics :=
  match t.get? id with
  | none => []
  | some c => notFound (baseIn scope id c) c

theorem notFound_congr {c c' : Component} (same : c'.declaration = c.declaration)
    (base : Option ComponentId) : notFound base c' = notFound base c := by
  change notFound base c'.declaration = notFound base c.declaration
  rw [same]

theorem baseIn_congr {c c' : Component} (same : c'.declaration = c.declaration) (scope : Scope)
    (id : ComponentId) : baseIn scope id c' = baseIn scope id c := by
  change baseIn scope id c'.declaration = baseIn scope id c.declaration
  rw [same]

theorem severity_missingBase (t : ComponentTable) (scope : Scope) (id : ComponentId) :
    ∀ d ∈ missingBase t scope id, d.severity = .warning := by
  unfold missingBase notFound
  split
  · simp
  · split <;> simp [Diagnostic.severity, Problem.severity]

theorem missingBase_congr (agrees : t.Agrees u) (scope : Scope) (id : ComponentId) :
    missingBase u scope id = missingBase t scope id := by
  unfold missingBase
  cases present : t.get? id with
  | none =>
      have same := agrees id
      rw [present, Option.map_none, Option.map_eq_none_iff] at same
      rw [same]
  | some c =>
      obtain ⟨c', present', declared⟩ := agrees.exists_get? present
      rw [present']
      dsimp only
      rw [baseIn_congr declared, notFound_congr declared]

theorem reports_findBase (l : Linking) (id : ComponentId) :
    (l.findBase id).reports = l.reports ++ missingBase l.components l.scope id := by
  unfold findBase missingBase notFound baseIn
  cases l.components.get? id with
  | none => simp
  | some c =>
      dsimp only
      cases (l.scope.find? c.extendsTag).filter (· != id) with
      | some base => simp
      | none =>
          dsimp only
          split
          · next custom => simp [custom, report]
          · next standard => simp [standard]

theorem reports_foldl_findBase (more : List ComponentId) (agrees : t.Agrees l.components) :
    (more.foldl findBase l).reports = l.reports ++ more.flatMap (missingBase t l.scope) := by
  induction more generalizing l with
  | nil => simp
  | cons id more ih =>
      rw [List.foldl_cons, ih (agrees.trans (agrees_findBase l id)), reports_findBase,
        scope_findBase, missingBase_congr agrees, List.flatMap_cons, List.append_assoc]

theorem weight_foldl_findBase (more : List ComponentId) (l : Linking) :
    (more.foldl findBase l).components.weight = l.components.weight := by
  induction more generalizing l with
  | nil => rfl
  | cons id more ih =>
      rw [List.foldl_cons, ih, components_findBase]
      exact l.components.weight_update_of_same id fun _ => rfl

end Linking

/-! ## Files -/

theorem charges_attachFileCode (scripts : OrderedMap Path CodeUnit) (file : SourceFile) :
    (∀ d ∈ (attachFileCode scripts file).2, d.severity = .error) ∧
      CodeUnit.weight (file.supplied scripts).code =
        CodeUnit.weight file.code + (attachFileCode scripts file).2.length := by
  unfold attachFileCode SourceFile.supplied
  split
  · next external absent wanted =>
    obtain ⟨severe, heavier⟩ := Linking.attach_charges scripts external file.path
    refine ⟨severe, ?_⟩
    rw [absent, wanted]
    simpa [CodeUnit.weight] using heavier
  · next other =>
    cases code : file.code with
    | some unit => simp
    | none =>
        cases wanted : file.external with
        | none => simp
        | some external => exact absurd wanted (other external code)

/-- The errors of linking a file come first, and are as many as it and the components get heavier;
then come the warnings. -/
theorem reports_linkFile (files : OrderedMap Path SourceFile) (scripts : OrderedMap Path CodeUnit)
    (u : ComponentTable) (file : SourceFile) :
    let linked := linkFile files scripts u file
    let l := linking files scripts u file
    ∃ errors, linked.2.2 =
        errors ++ file.declared.flatMap (Linking.missingBase l.components l.scope) ∧
      (∀ d ∈ errors, d.severity = .error) ∧
      linked.2.1.weight + CodeUnit.weight linked.1.code =
        u.weight + CodeUnit.weight file.code + errors.length := by
  intro linked l
  obtain ⟨severe, heavier⟩ := charges_attachFileCode scripts file
  have charges : Linking.Charges
      { scope := file.scope, components := u, reports := (attachFileCode scripts file).2 } l :=
    (Linking.charges_foldl (fun l id => (Linking.charges_register file.path l id).trans
      (Linking.charges_attachCode scripts _ id)) file.declared _).trans
      (Linking.charges_foldl (Linking.charges_register file.path) _ _)
  obtain ⟨errors, reported, severe', heavier'⟩ := charges
  refine ⟨(attachFileCode scripts file).2 ++ errors, ?_, ?_, ?_⟩
  · rw [← reported]
    change (linkFile files scripts u file).2.2 = _
    rw [linkFile_eq_linking]
    exact Linking.reports_foldl_findBase file.declared (.refl l.components)
  · intro d member
    rcases List.mem_append.1 member with early | late
    · exact severe d early
    · exact severe' d late
  · change (linkFile files scripts u file).2.1.weight +
      CodeUnit.weight (linkFile files scripts u file).1.code = _
    rw [linkFile_eq_linking]
    dsimp only
    rw [Linking.weight_foldl_findBase, heavier, List.length_append]
    change l.components.weight + _ = _
    rw [heavier']
    dsimp only
    omega

/-! ## Announcements -/

namespace Linking
variable {l l' l₂ : Linking} {file : Path} {scripts : OrderedMap Path CodeUnit}

/-- From `l` to `l'` no component was flagged without a pair of errors, and the scope still has each
component under its tag. -/
structure Announces (l l' : Linking) : Prop where
  agrees : l.components.Agrees l'.components
  named : Named l'.components l'.scope
  told : ∃ more, l'.reports = l.reports ++ more ∧ ∀ c, l'.components.hasConflict c = true →
    l.components.hasConflict c = true ∨ ∃ ds, IsPair l.components c ds ∧ ds <:+: more

namespace Announces

theorem of_same (named : Named l.components l.scope)
    (agrees : l.components.Agrees l'.components) (scope : l'.scope = l.scope)
    (flags : l'.components.hasConflict = l.components.hasConflict)
    (told : ∃ more, l'.reports = l.reports ++ more) : Announces l l' where
  agrees := agrees
  named := scope ▸ named.congr agrees
  told := by
    obtain ⟨more, reported⟩ := told
    exact ⟨more, reported, fun c flagged => .inl (flags ▸ flagged)⟩

theorem refl (named : Named l.components l.scope) : Announces l l :=
  .of_same named (.refl _) rfl rfl ⟨[], (List.append_nil _).symm⟩

theorem trans (first : Announces l l') (second : Announces l' l₂) : Announces l l₂ where
  agrees := first.agrees.trans second.agrees
  named := second.named
  told := by
    obtain ⟨early, reported, told⟩ := first.told
    obtain ⟨late, reported', told'⟩ := second.told
    refine ⟨early ++ late, by rw [reported', reported, List.append_assoc], fun c flagged => ?_⟩
    rcases told' c flagged with before | ⟨ds, pair, listed⟩
    · refine (told c before).imp_right fun ⟨ds, pair, listed⟩ => ⟨ds, pair, ?_⟩
      exact listed.trans (List.prefix_append early late).isInfix
    · exact .inr ⟨ds, pair.congr first.agrees.symm,
        listed.trans (List.suffix_append early late).isInfix⟩

theorem foldl {step : Linking → ComponentId → Linking}
    (announces : ∀ l id, Named l.components l.scope → Announces l (step l id))
    (ids : List ComponentId) (named : Named l.components l.scope) :
    Announces l (ids.foldl step l) := by
  induction ids generalizing l with
  | nil => exact .refl named
  | cons id ids ih =>
      have first := announces l id named
      exact first.trans (ih first.named)

end Announces

theorem announces_register (file : Path) (l : Linking) (id : ComponentId)
    (named : Named l.components l.scope) : Announces l (l.register file id) := by
  have registers := registers_register file l id
  refine ⟨registers.agrees, registers.named named, ?_⟩
  rcases registers.reports_cases named with ⟨quiet, same⟩ | ⟨c, ds, spoke, pair, -, newly⟩
  · exact ⟨[], by rw [quiet, List.append_nil], fun c flagged => .inl (same ▸ flagged)⟩
  · refine ⟨ds, spoke, fun n flagged => ((newly n).1 flagged).imp_right ?_⟩
    rintro rfl
    exact ⟨ds, pair, List.infix_rfl⟩

theorem announces_attachCode (scripts : OrderedMap Path CodeUnit) (l : Linking) (id : ComponentId)
    (named : Named l.components l.scope) : Announces l (l.attachCode scripts id) := by
  obtain ⟨errors, reported, -⟩ := charges_attachCode scripts l id
  exact .of_same named (agrees_attachCode scripts l id) (scope_attachCode scripts l id)
    (hasConflict_attachCode scripts l id) ⟨errors, reported⟩

theorem announces_declareOwn (scripts : OrderedMap Path CodeUnit) (file : Path) (l : Linking)
    (id : ComponentId) (named : Named l.components l.scope) :
    Announces l (declareOwn scripts file l id) := by
  have registered := announces_register file l id named
  exact registered.trans (announces_attachCode scripts _ id registered.named)

theorem announces_findBase (l : Linking) (id : ComponentId) (named : Named l.components l.scope) :
    Announces l (l.findBase id) :=
  .of_same named (agrees_findBase l id) (scope_findBase l id) (hasConflict_findBase l id)
    ⟨_, reports_findBase l id⟩

end Linking

/-- Linking a file flags no component without reporting a pair of errors about it. -/
theorem announces_linkFile (files : OrderedMap Path SourceFile) (scripts : OrderedMap Path CodeUnit)
    {t : ComponentTable} {file : SourceFile} (named : Linking.Named t file.scope) :
    let linked := linkFile files scripts t file
    t.Agrees linked.2.1 ∧ Linking.Named linked.2.1 linked.1.scope ∧
      ∀ c, linked.2.1.hasConflict c = true →
        t.hasConflict c = true ∨ ∃ ds, Linking.IsPair t c ds ∧ ds <:+: linked.2.2 := by
  have own := Linking.Announces.foldl (Linking.announces_declareOwn scripts file.path) file.declared
    (l := { scope := file.scope, components := t, reports := (attachFileCode scripts file).2 }) named
  have all := own.trans (.foldl (Linking.announces_register file.path)
    (importedBy files file.componentLinks) own.named)
  have based := all.trans (.foldl Linking.announces_findBase file.declared all.named)
  obtain ⟨more, reported, told⟩ := based.told
  rw [linkFile_eq_linking]
  refine ⟨based.agrees, based.named, fun c flagged => (told c flagged).imp_right ?_⟩
  rintro ⟨ds, pair, listed⟩
  refine ⟨ds, pair, listed.trans ?_⟩
  change more <:+: Linking.reports (List.foldl ..)
  rw [linking, reported]
  exact (List.suffix_append _ more).isInfix

end ComponentMarkup
