import ComponentMarkup.Proofs.Annotated.Used
import ComponentMarkup.Proofs.Workspace.Scopes
import ComponentMarkup.Proofs.Workspace.Settled

/-!
What the files and components of a first run use. No two files declare the same component, so that
what one file counts no other changes.
-/

namespace ComponentMarkup

theorem SourceFile.Uncounted.congr {t u : ComponentTable} {file : SourceFile}
    (uncounted : file.Uncounted t) (agrees : t.Agrees u)
    (used : ∀ id ∈ file.declared,
      (u.get? id).map Component.used = (t.get? id).map Component.used) : file.Uncounted u := by
  refine ⟨uncounted.fresh, uncounted.wellFormed, uncounted.unused, fun id declared => ?_⟩
  obtain ⟨c, present, unused, element⟩ := uncounted.declares id declared
  obtain ⟨c', present', declaration⟩ := agrees.exists_get? present
  have same := used id declared
  rw [present, present', Option.map_some, Option.map_some, Option.some.injEq] at same
  exact ⟨c', present', same.trans unused, Component.element_of_declaration declaration ▸ element⟩

namespace Workspace

theorem countsUses_annotateEach (keepBlanks : Bool) {entries : List (Path × SourceFile)}
    {components : ComponentTable} (counter : UInt64)
    (apart : entries.Pairwise fun entry other => entry.2.Apart other.2)
    (uncounted : ∀ entry ∈ entries, entry.2.Uncounted components) :
    components.Agrees (annotateEach keepBlanks entries components counter).2.1 ∧
    (∀ id, (∀ entry ∈ entries, id ∉ entry.2.declared) →
      ((annotateEach keepBlanks entries components counter).2.1.get? id).map Component.used =
        (components.get? id).map Component.used) ∧
    ∀ entry ∈ (annotateEach keepBlanks entries components counter).1,
      entry.2.CountsUses (annotateEach keepBlanks entries components counter).2.1 := by
  induction entries generalizing components counter with
  | nil => exact ⟨.refl components, fun _ _ => rfl, fun entry impossible => nomatch impossible⟩
  | cons entry rest ih =>
      obtain ⟨path, file⟩ := entry
      obtain ⟨others, apart⟩ := List.pairwise_cons.1 apart
      obtain ⟨here, uncounted⟩ := List.forall_mem_cons.1 uncounted
      obtain ⟨counts, kept⟩ :=
        countsUses_annotateFile keepBlanks { file, components, counter } here
      have basis := basis_annotateFile keepBlanks { file, components, counter }
      have agrees : components.Agrees
          (annotateFile keepBlanks { file, components, counter }).components := fun id =>
        congrFun (congrArg Basis.declaration basis) id
      have declared : (annotateFile keepBlanks { file, components, counter }).file.declared =
          file.declared := congrArg (fun b : Basis => b.file.declared) basis
      rw [annotateEach]
      dsimp only
      generalize annotateFile keepBlanks { file, components, counter } = t at *
      obtain ⟨agreesAfter, untouched, counted⟩ := ih t.counter apart fun entry member =>
        (uncounted entry member).congr agrees fun id listed =>
          kept id fun own => others entry member id own listed
      refine ⟨agrees.trans agreesAfter, fun id other => ?_, List.forall_mem_cons.2 ⟨?_, counted⟩⟩
      · obtain ⟨otherHere, otherRest⟩ := List.forall_mem_cons.1 other
        exact (untouched id otherRest).trans (kept id otherHere)
      -- The files after this one declare other components.
      · refine counts.congr agreesAfter fun id own => untouched id fun entry member => ?_
        exact others entry member id (declared ▸ own)

theorem used_settled (w : Workspace) (done : Path → Bool) (id : ComponentId) (c : Component) :
    (w.settled done id c).used = c.used := by
  unfold settled
  split
  · rfl
  · split <;> rfl

theorem uncounted_linkAll (settings : Settings) (scripts : OrderedMap Path CodeUnit)
    {sources : List Source} (wellFormed : ∀ source ∈ sources, source.document.WellFormed) :
    let w := (({ settings, scripts } : Workspace).declareAll sources).1.linkAll.1
    OrderedMap.Distinct w.files.entries ∧
      w.files.entries.Pairwise (fun entry other => entry.2.Apart other.2) ∧
      ∀ entry ∈ w.files.entries, entry.2.Uncounted w.components := by
  obtain ⟨unlinked, declares⟩ := unlinked_declareAll settings scripts sources
  obtain ⟨files, components, declared, -, origin, -⟩ := run_turns settings scripts sources
  intro w
  have linked : w = _ := unlinked.fst_linkAll
  rw [declared] at unlinked declares linked
  clear_value w
  subst linked
  refine ⟨OrderedMap.distinct_of_keys (List.map_map ..) unlinked.distinct,
    List.pairwise_map.2 unlinked.apart, fun entry member => ?_⟩
  obtain ⟨before, listed, rfl⟩ := List.mem_map.1 member
  obtain ⟨source, found, first, record⟩ := origin before listed
  refine ⟨?_, ?_, ?_, fun id own => ?_⟩
  · change before.2.annotations = {}
    rw [record]
    rfl
  · change before.2.document.WellFormed
    rw [record]
    exact wellFormed source (mem_of_source? found)
  · change before.2.used = []
    rw [record]
    rfl
  · obtain ⟨c, present, reads⟩ := declares before listed id own
    have unused : c.used = [] := congrArg Component.used reads.declaration
    have after := get?_linked { settings, scripts, files, components } (fun _ => true) id
    rw [present, Option.map_some] at after
    refine ⟨_, after, (used_settled _ _ id c).trans unused, ?_⟩
    have declaration := declaration_settled { settings, scripts, files, components } (fun _ => true)
      id c
    exact (congrArg before.2.document.tag? (Component.element_of_declaration declaration)).trans
      reads.tag

/-- After a first run each component that a node is bound to counts as used, in the order in which the
walk comes by it first: by the component whose declaration is the nearest one around the node that
is annotated as it is, and by the file where there is none. -/
theorem countsUses_run (settings : Settings) (scripts : OrderedMap Path CodeUnit)
    (sources : List Source) (wellFormed : ∀ source ∈ sources, source.document.WellFormed) :
    let w := (({ settings, scripts } : Workspace).run sources).1
    ∀ path file, w.files.find? path = some file → file.CountsUses w.components := by
  obtain ⟨distinct, apart, uncounted⟩ := uncounted_linkAll settings scripts wellFormed
  rw [run_eq, fst_annotateAll distinct]
  intro w path file found
  obtain ⟨entry, first, rfl⟩ := Option.map_eq_some_iff.1 found
  exact (countsUses_annotateEach _ _ apart uncounted).2.2 entry (List.mem_of_find?_eq_some first)

/-- `<element name="x-a"><template><x-b></x-b></template></element>`, `<element name="x-b">` and
`<x-b>` in a body. -/
def usedInside : Document where
  nodes := #[
    { data := .document, children := [1] },
    { data := .element "body" {}, parent := some 0, children := [2, 5, 6] },
    { data := .element "element" ⟨[("name", "x-a")]⟩, parent := some 1, children := [3] },
    { data := .element "template" {}, parent := some 2, children := [4] },
    { data := .element "x-b" {}, parent := some 3 },
    { data := .element "element" ⟨[("name", "x-b")]⟩, parent := some 1 },
    { data := .element "x-b" {}, parent := some 1 }]

theorem countsUses_run_usedInside :
    let w := (({} : Workspace).run [{ path := ⟨"a.html"⟩, document := usedInside }]).1
    usedInside.WellFormed ∧
      ∀ path file, w.files.find? path = some file → file.CountsUses w.components := by
  have checked : usedInside.Checked fun n => if n < 5 then n else 2 := by decide
  have wellFormed := Document.WellFormed.of_checked checked
  refine ⟨wellFormed, countsUses_run {} {} _ fun source member => ?_⟩
  obtain rfl := List.mem_singleton.1 member
  exact wellFormed

/-- `<element name="x-a" template iterate="x in xs"><template><x-b></x-b></template></element>` and
`<element name="x-b">` in a body. -/
def repeatedDeclaration : Document where
  nodes := #[
    { data := .document, children := [1] },
    { data := .element "body" {}, parent := some 0, children := [2, 5] },
    { data := .element "element"
        ⟨[("name", "x-a"), ("template", ""), ("iterate", "x in xs")]⟩, parent := some 1,
      children := [3] },
    { data := .element "template" {}, parent := some 2, children := [4] },
    { data := .element "x-b" {}, parent := some 3 },
    { data := .element "element" ⟨[("name", "x-b")]⟩, parent := some 1 }]

/-- What is bound below a declaration that is repeated counts for the file. -/
theorem not_used_repeatedDeclaration :
    let w := (({} : Workspace).run [{ path := ⟨"a.html"⟩, document := repeatedDeclaration }]).1
    repeatedDeclaration.WellFormed ∧ ∃ file a c, w.files.find? ⟨"a.html"⟩ = some file ∧
      file.annotations.get? 3 = some a ∧ a.component? = some 1 ∧
      0 ∈ file.declared ∧ w.components.get? 0 = some c ∧
      c.element ∈ file.document.ancestors a.source ∧ c.used = [] ∧ file.used = [1] := by
  have checked : repeatedDeclaration.Checked fun n => if n < 5 then n else 2 := by decide
  let w := (({} : Workspace).run [{ path := ⟨"a.html"⟩, document := repeatedDeclaration }]).1
  have bound : ((w.files.find? ⟨"a.html"⟩).bind fun file => (file.annotations.get? 3).map fun a =>
      (a.component?, file.document.ancestors a.source)) = some (some 1, [3, 2, 1]) := by
    decide +kernel
  have used : ((w.files.find? ⟨"a.html"⟩).bind fun file => (w.components.get? 0).map fun c =>
      (file.declared, file.used, c.element, c.used)) = some ([0, 1], [1], 2, []) := by
    decide +kernel
  obtain ⟨file, found, bound⟩ := Option.bind_eq_some_iff.1 bound
  obtain ⟨a, present, bound⟩ := Option.map_eq_some_iff.1 bound
  obtain ⟨file', found', used⟩ := Option.bind_eq_some_iff.1 used
  obtain rfl := Option.some.inj (found.symm.trans found')
  obtain ⟨c, known, used⟩ := Option.map_eq_some_iff.1 used
  obtain ⟨bound, above⟩ := Prod.mk.inj bound
  obtain ⟨declared, used, element, unused⟩ : file.declared = [0, 1] ∧ file.used = [1] ∧
      c.element = 2 ∧ c.used = [] := by simpa using used
  refine ⟨.of_checked checked, file, a, c, found, present, bound, ?_, known, ?_, unused, used⟩
  · rw [declared]
    exact List.mem_cons_self
  · rw [element, above]
    exact List.mem_cons_of_mem _ List.mem_cons_self

end Workspace
end ComponentMarkup
