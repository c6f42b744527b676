import ComponentMarkup.Proofs.Linking
import Mathlib.Data.List.Nodup
import Mathlib.Logic.Function.Basic

/-!
Scopes that are filled side by side, each for its file, from one table. A component is flagged by
the first call that clashes with it in some scope; that call reports two errors, and no other call
reports anything.
-/

namespace ComponentMarkup

open Linking

structure Scopes (ι : Type) where
  scope : ι → Scope
  components : ComponentTable
  reports : Diagnostics := []

namespace Linking

/-- Bringing `other` into a scope clashes with `c`, which has its tag there. -/
def Provokes (t : ComponentTable) (file : Path) (scope : Scope) (other c : ComponentId) : Prop :=
  ∃ first second, t.get? c = some first ∧ t.get? other = some second ∧ second.tag = first.tag ∧
    scope.find? first.tag = some c ∧ other ≠ c ∧ ¬ Hides file first second

/-- Two errors, where `c` is declared and where another component of its tag is. -/
def IsPair (t : ComponentTable) (c : ComponentId) (ds : Diagnostics) : Prop :=
  ∃ first other second isLocal, t.get? c = some first ∧ t.get? other = some second ∧ other ≠ c ∧
    second.tag = first.tag ∧ ds = clashReports first second isLocal

/-- Every tag of the scope stands for a component that has it. -/
def Named (t : ComponentTable) (scope : Scope) : Prop :=
  ∀ tag c, scope.find? tag = some c → ∃ first, t.get? c = some first ∧ first.tag = tag

variable {t u : ComponentTable} {file : Path} {scope : Scope} {other c id : ComponentId}
  {ds : Diagnostics} {l l' : Linking}

/-! ## Tables of the same declarations -/

section Agreeing
variable (agrees : t.Agrees u)
include agrees

theorem Provokes.congr (provokes : Provokes t file scope other c) :
    Provokes u file scope other c := by
  obtain ⟨first, second, there, present, same, kept, different, visible⟩ := provokes
  obtain ⟨first', there', declared⟩ := agrees.exists_get? there
  obtain ⟨second', present', declared'⟩ := agrees.exists_get? present
  have tag : first'.tag = first.tag := Component.tag_of_declaration declared
  have tag' : second'.tag = second.tag := Component.tag_of_declaration declared'
  have origin : first'.file = first.file := Component.file_of_declaration declared
  have origin' : second'.file = second.file := Component.file_of_declaration declared'
  refine ⟨first', second', there', present', ?_, ?_, different, ?_⟩
  · rw [tag, tag', same]
  · rw [tag, kept]
  · rw [Hides, origin, origin']
    exact visible

theorem IsPair.congr (pair : IsPair t c ds) : IsPair u c ds := by
  obtain ⟨first, other, second, isLocal, there, present, different, same, rfl⟩ := pair
  obtain ⟨first', there', declared⟩ := agrees.exists_get? there
  obtain ⟨second', present', declared'⟩ := agrees.exists_get? present
  have tag : first'.tag = first.tag := Component.tag_of_declaration declared
  have tag' : second'.tag = second.tag := Component.tag_of_declaration declared'
  refine ⟨first', other, second', isLocal, there', present', different, ?_, ?_⟩
  · rw [tag, tag', same]
  · change clashReports first.declaration second.declaration isLocal =
      clashReports first'.declaration second'.declaration isLocal
    rw [declared, declared']

theorem Named.congr (named : Named t scope) : Named u scope := by
  intro tag c kept
  obtain ⟨first, there, same⟩ := named tag c kept
  obtain ⟨first', there', declared⟩ := agrees.exists_get? there
  have tags : first'.tag = first.tag := Component.tag_of_declaration declared
  exact ⟨first', there', tags.trans same⟩

end Agreeing

theorem severity_of_isPair (pair : IsPair t c ds) : ∀ d ∈ ds, d.severity = .error := by
  obtain ⟨first, other, second, isLocal, -, -, -, -, rfl⟩ := pair
  exact severity_clashReports first second isLocal

theorem length_of_isPair (pair : IsPair t c ds) : ds.length = 2 := by
  obtain ⟨first, other, second, isLocal, -, -, -, -, rfl⟩ := pair
  rfl

/-! ## One call -/

namespace Registers
variable (registers : Registers file l id l')
include registers

theorem named (named : Named l.components l.scope) : Named l'.components l'.scope := by
  have kept : Named l.components l'.scope := by
    intro tag c after
    rcases registers.find?_scope_or after with before | ⟨rfl, second, present, same⟩
    · exact named tag c before
    · exact ⟨second, present, same⟩
  exact kept.congr registers.agrees

theorem hasConflict_iff (named : Named l.components l.scope) (n : ComponentId) :
    l'.components.hasConflict n = true ↔
      l.components.hasConflict n = true ∨ Provokes l.components file l.scope id n := by
  cases registers with
  | absent absent =>
      simp [Provokes, absent]
  | @admitted second present free =>
      refine (or_iff_left ?_).symm
      rintro ⟨first, second', -, present', same, kept, -⟩
      obtain rfl := Option.some.inj (present.symm.trans present')
      rw [← same] at kept
      cases free.symm.trans kept
  | @settled second existing present taken quiet =>
      refine (or_iff_left_of_imp ?_).symm
      rintro ⟨first, second', there, present', same, kept, different, visible⟩
      obtain rfl := Option.some.inj (present.symm.trans present')
      rw [← same] at kept
      obtain rfl := Option.some.inj (taken.symm.trans kept)
      rcases quiet first there with equal | hides | flagged
      · exact absurd equal.symm different
      · exact absurd hides visible
      · rw [ComponentTable.hasConflict, there]
        exact flagged
  | @clashes first second existing present taken keeper different visible unflagged =>
      rw [components_reportClash, ComponentTable.hasConflict_flag _ _ _ keeper]
      apply or_congr_right
      constructor
      · rintro rfl
        obtain ⟨first', there, same⟩ := named second.tag n taken
        obtain rfl := Option.some.inj (keeper.symm.trans there)
        exact ⟨first, second, keeper, present, same.symm, same ▸ taken, different, visible⟩
      · rintro ⟨first', second', there, present', same, kept, -⟩
        obtain rfl := Option.some.inj (present.symm.trans present')
        rw [← same] at kept
        exact (Option.some.inj (taken.symm.trans kept)).symm

theorem reports_cases (named : Named l.components l.scope) :
    l'.reports = l.reports ∧ l'.components.hasConflict = l.components.hasConflict ∨
      ∃ c ds, l'.reports = l.reports ++ ds ∧ IsPair l.components c ds ∧
        l.components.hasConflict c = false ∧ ∀ n, l'.components.hasConflict n = true ↔
          l.components.hasConflict n = true ∨ n = c := by
  cases registers with
  | absent _ => exact .inl ⟨rfl, rfl⟩
  | admitted _ _ => exact .inl ⟨rfl, rfl⟩
  | settled _ _ _ => exact .inl ⟨rfl, rfl⟩
  | @clashes first second existing present taken keeper different visible unflagged =>
      obtain ⟨first', there, same⟩ := named second.tag existing taken
      obtain rfl := Option.some.inj (keeper.symm.trans there)
      refine .inr ⟨existing, _, reports_reportClash file l existing first second, ?_, ?_, ?_⟩
      · exact ⟨first, id, second, _, keeper, present, different, same.symm, rfl⟩
      · rw [ComponentTable.hasConflict, keeper]
        exact unflagged
      · intro n
        exact ComponentTable.hasConflict_flag _ _ _ keeper

end Registers
end Linking

/-! ## Many calls -/

namespace Scopes
variable {ι : Type} [DecidableEq ι]

/-- What a call on one of the scopes works on. -/
def view (s : Scopes ι) (i : ι) : Linking :=
  { scope := s.scope i, components := s.components, reports := s.reports }

/-- A call brings a component into one of the scopes. -/
def register (file : ι → Path) (s : Scopes ι) (call : ι × ComponentId) : Scopes ι :=
  let l := (s.view call.1).register (file call.1) call.2
  { scope := Function.update s.scope call.1 l.scope, components := l.components, reports := l.reports }

def registerAll (file : ι → Path) (s : Scopes ι) (calls : List (ι × ComponentId)) : Scopes ι :=
  calls.foldl (register file) s

variable (file : ι → Path) (s : Scopes ι) (calls : List (ι × ComponentId)) (call : ι × ComponentId)

theorem registerAll_append (more : List (ι × ComponentId)) :
    s.registerAll file (calls ++ more) = (s.registerAll file calls).registerAll file more :=
  List.foldl_append

theorem registers_view : Registers (file call.1) (s.view call.1) call.2
    ((s.register file call).view call.1) := by
  have view : (s.register file call).view call.1 =
      (s.view call.1).register (file call.1) call.2 := by
    simp [Scopes.view, register]
  rw [view]
  exact registers_register _ _ _

theorem scope_register_of_ne {i : ι} (other : i ≠ call.1) :
    (s.register file call).scope i = s.scope i := by
  simp [register, other]

theorem find?_registerAll {i : ι} {tag : String} {c : ComponentId}
    (before : (s.scope i).find? tag = some c) :
    ((s.registerAll file calls).scope i).find? tag = some c := by
  induction calls generalizing s with
  | nil => exact before
  | cons call calls ih =>
      apply ih
      by_cases here : i = call.1
      · subst here
        exact (registers_view file s call).find?_scope before
      · rw [scope_register_of_ne file s call here]
        exact before

variable {s}

theorem named_register (named : ∀ i, Named s.components (s.scope i)) (i : ι) :
    Named (s.register file call).components ((s.register file call).scope i) := by
  by_cases here : i = call.1
  · subst here
    exact (registers_view file s call).named (named call.1)
  · rw [scope_register_of_ne file s call here]
    exact (named i).congr (registers_view file s call).agrees

theorem hasConflict_registerAll (named : ∀ i, Named s.components (s.scope i)) (c : ComponentId) :
    (s.registerAll file calls).components.hasConflict c = true ↔
      s.components.hasConflict c = true ∨ ∃ earlier call later, calls = earlier ++ call :: later ∧
        Provokes s.components (file call.1) ((s.registerAll file earlier).scope call.1) call.2 c := by
  induction calls generalizing s with
  | nil => simp [registerAll]
  | cons first calls ih =>
      have step := registers_view file s first
      have agrees := step.agrees
      have flagged := step.hasConflict_iff (named first.1) c
      have next := ih (named_register file first named)
      -- Of the table, the first call changes flags only, which provoking does not depend on.
      have clash (call : ι × ComponentId) (scope : Scope) :
          Provokes (s.register file first).components (file call.1) scope call.2 c ↔
            Provokes s.components (file call.1) scope call.2 c :=
        ⟨.congr agrees.symm, .congr agrees⟩
      simp only [clash] at next
      change (s.register file first).components.hasConflict c = true ↔
        s.components.hasConflict c = true ∨
          Provokes s.components (file first.1) (s.scope first.1) first.2 c at flagged
      change ((s.register file first).registerAll file calls).components.hasConflict c = true ↔ _
      rw [next, flagged, or_assoc]
      apply or_congr_right
      constructor
      · rintro (here | ⟨earlier, call, later, rfl, provokes⟩)
        · exact ⟨[], first, calls, rfl, here⟩
        · exact ⟨first :: earlier, call, later, rfl, provokes⟩
      · rintro ⟨earlier, call, later, split, provokes⟩
        cases earlier with
        | nil =>
            obtain ⟨rfl, rfl⟩ := List.cons.inj split
            exact .inl provokes
        | cons other earlier =>
            obtain ⟨rfl, rfl⟩ := List.cons.inj split
            exact .inr ⟨earlier, call, later, rfl, provokes⟩

/-- The new reports are pairs, one for each component that is newly flagged. -/
theorem reports_registerAll (named : ∀ i, Named s.components (s.scope i)) :
    ∃ blocks : List (ComponentId × Diagnostics),
      (s.registerAll file calls).reports = s.reports ++ blocks.flatMap Prod.snd ∧
      (blocks.map Prod.fst).Nodup ∧
      (∀ block ∈ blocks, IsPair s.components block.1 block.2 ∧
        s.components.hasConflict block.1 = false) ∧
      ∀ c, (s.registerAll file calls).components.hasConflict c = true ↔
        s.components.hasConflict c = true ∨ c ∈ blocks.map Prod.fst := by
  induction calls generalizing s with
  | nil => exact ⟨[], by simp [registerAll]⟩
  | cons call calls ih =>
      have step := registers_view file s call
      have agrees := step.agrees
      obtain ⟨blocks, reports, distinct, pairs, flagged⟩ := ih (named_register file call named)
      change ((s.register file call).registerAll file calls).reports = _ at reports
      have pairs' : ∀ block ∈ blocks, IsPair s.components block.1 block.2 :=
        fun block member => (pairs block member).1.congr agrees.symm
      rcases step.reports_cases (named call.1) with ⟨quiet, same⟩ | ⟨c, ds, spoke, pair, unset, newly⟩
      · change (s.register file call).reports = s.reports at quiet
        change (s.register file call).components.hasConflict = s.components.hasConflict at same
        rw [same] at pairs flagged
        rw [quiet] at reports
        exact ⟨blocks, reports, distinct,
          fun block member => ⟨pairs' block member, (pairs block member).2⟩, flagged⟩
      · change (s.register file call).reports = s.reports ++ ds at spoke
        change ∀ n, (s.register file call).components.hasConflict n = true ↔
          s.components.hasConflict n = true ∨ n = c at newly
        -- The later pairs are for components that this call has left unflagged.
        have later : ∀ block ∈ blocks, s.components.hasConflict block.1 = false ∧ block.1 ≠ c := by
          intro block member
          have unflagged := (pairs block member).2
          rw [← Bool.not_eq_true, newly, not_or, Bool.not_eq_true] at unflagged
          exact unflagged
        refine ⟨(c, ds) :: blocks, ?_, ?_, ?_, ?_⟩
        · rw [List.flatMap_cons, ← List.append_assoc, ← spoke]
          exact reports
        · rw [List.map_cons, List.nodup_cons]
          refine ⟨fun member => ?_, distinct⟩
          obtain ⟨block, listed, same⟩ := List.mem_map.1 member
          exact (later block listed).2 same
        · intro block member
          rcases List.mem_cons.1 member with rfl | member
          · exact ⟨pair, unset⟩
          · exact ⟨pairs' block member, (later block member).1⟩
        · intro n
          rw [List.map_cons, List.mem_cons, ← or_assoc, ← newly]
          exact flagged n

theorem length_flatMap_of_isPair {t : ComponentTable} {blocks : List (ComponentId × Diagnostics)}
    (pairs : ∀ block ∈ blocks, IsPair t block.1 block.2) :
    (blocks.flatMap Prod.snd).length = 2 * blocks.length := by
  induction blocks with
  | nil => rfl
  | cons block blocks ih =>
      have first := length_of_isPair (pairs block List.mem_cons_self)
      have rest := ih fun other member => pairs other (List.mem_cons_of_mem _ member)
      simp only [List.flatMap_cons, List.length_append, List.length_cons, first, rest]
      omega

/-- From a table without flags: a component is flagged when a call provokes a clash with it, a tag
keeps its component, and the new reports are one pair of errors for each flagged component. -/
theorem conflicts_registerAll (unflagged : ∀ c, s.components.hasConflict c = false)
    (named : ∀ i, Named s.components (s.scope i)) :
    let after := s.registerAll file calls
    (∀ c, after.components.hasConflict c = true ↔
      ∃ earlier call later, calls = earlier ++ call :: later ∧
        Provokes s.components (file call.1) ((s.registerAll file earlier).scope call.1) call.2 c) ∧
    (∀ earlier later, calls = earlier ++ later → ∀ i tag c,
      ((s.registerAll file earlier).scope i).find? tag = some c →
        (after.scope i).find? tag = some c) ∧
    ∃ blocks : List (ComponentId × Diagnostics),
      after.reports = s.reports ++ blocks.flatMap Prod.snd ∧
      (∀ block ∈ blocks, IsPair s.components block.1 block.2 ∧
        ∀ d ∈ block.2, d.severity = .error) ∧
      (blocks.map Prod.fst).Nodup ∧
      (∀ c, c ∈ blocks.map Prod.fst ↔ after.components.hasConflict c = true) ∧
      after.reports.length = s.reports.length +
        2 * (List.range after.components.size).countP after.components.hasConflict := by
  intro after
  obtain ⟨blocks, reports, distinct, pairs, flagged⟩ := reports_registerAll file calls named
  have keepers (c : ComponentId) :
      c ∈ blocks.map Prod.fst ↔ after.components.hasConflict c = true := by
    rw [flagged, unflagged, or_iff_right Bool.false_ne_true]
  -- Each flagged component heads one block, so counting the flags counts the blocks.
  have counted : blocks.length =
      (List.range after.components.size).countP after.components.hasConflict := by
    have permuted : (blocks.map Prod.fst).Perm
        ((List.range after.components.size).filter after.components.hasConflict) := by
      apply (List.perm_ext_iff_of_nodup distinct (List.nodup_range.filter _)).2
      intro c
      rw [keepers, List.mem_filter, List.mem_range, iff_and_self]
      intro flag
      by_contra outside
      rw [ComponentTable.hasConflict, ComponentTable.get?_eq_none (Nat.le_of_not_lt outside)] at flag
      cases flag
    rw [List.countP_eq_length_filter, ← permuted.length_eq, List.length_map]
  refine ⟨fun c => ?_, ?_, blocks, reports, fun block member => ?_, distinct, keepers, ?_⟩
  · rw [hasConflict_registerAll file calls named, unflagged, or_iff_right Bool.false_ne_true]
  · rintro earlier later rfl i tag c before
    change ((s.registerAll file (earlier ++ later)).scope i).find? tag = some c
    rw [registerAll_append]
    exact find?_registerAll file _ later before
  · exact ⟨(pairs block member).1, severity_of_isPair (pairs block member).1⟩
  · rw [reports, List.length_append, ← counted,
      length_flatMap_of_isPair fun block member => (pairs block member).1]

/-- Two files that declare `x-a`. -/
def twoDeclarations : Scopes Bool :=
  let component (file : Path) : Component :=
    { tag := "x-a", extendsTag := "span", file, element := 1, template := none, position := ⟨1, 1⟩ }
  { scope := fun _ => {}, components := ⟨#[component ⟨"a.html"⟩, component ⟨"b.html"⟩]⟩ }

/-- The second declaring file, and a file that declares nothing. -/
def importer : Bool → Path
  | true => ⟨"b.html"⟩
  | false => ⟨"c.html"⟩

/-- In `b.html` its own declaration hides the other; in `c.html` the two clash, which is
reported once. -/
theorem conflicts_registerAll_twoDeclarations :
    let calls := [(true, 1), (true, 0), (false, 0), (false, 1), (false, 1)]
    let after := twoDeclarations.registerAll importer calls
    (∀ c, twoDeclarations.components.hasConflict c = false) ∧
    (∀ i, Named twoDeclarations.components (twoDeclarations.scope i)) ∧
    after.components.hasConflict 0 = true ∧ after.reports.length = 2 := by
  intro calls after
  have unflagged : ∀ c, twoDeclarations.components.hasConflict c = false
    | 0 => rfl
    | 1 => rfl
    | _ + 2 => rfl
  have named : ∀ i, Named twoDeclarations.components (twoDeclarations.scope i) := by
    intro i tag c kept
    cases kept
  obtain ⟨flags, -, blocks, -, -, -, -, counted⟩ :=
    conflicts_registerAll importer calls unflagged named
  refine ⟨unflagged, named, ?_, ?_⟩
  · apply (flags 0).2
    refine ⟨[(true, 1), (true, 0), (false, 0)], (false, 1), [(false, 1)], rfl, ?_⟩
    exact ⟨_, _, rfl, rfl, rfl, by decide, by decide, by decide⟩
  · rw [counted]
    decide +kernel

end Scopes
end ComponentMarkup
