import ComponentMarkup.Proofs.Annotated.File
import ComponentMarkup.Proofs.Workspace.Run
import Mathlib.Algebra.GroupWithZero.Nat

/-!
The numbers that a first run gives out are met again, in their order and without a gap, when the
files are read one after the other and each from below.
-/

namespace ComponentMarkup

theorem toNat_drawnFrom_zero {count : Nat} (few : count < 2 ^ 64) :
    (drawnFrom 0 count).map UInt64.toNat = List.range count := by
  rw [drawnFrom, List.map_map]
  refine (List.map_congr_left fun i member => ?_).trans (List.map_id _)
  have below : i < 2 ^ 64 := Nat.lt_trans (List.mem_range.1 member) few
  rw [Function.comp_apply, UInt64.zero_add, UInt64.toNat_ofNat_of_lt' below]
  rfl

theorem Pass.visitForest_of_dropped {s : Pass} {node : NodeId} {tag : String}
    {attributes : Attributes} (data : s.document.data? node = some (.element tag attributes))
    (dropped : (Plan.read s.document node tag).2 = .dropped) (below rest : Forest)
    (around : Surroundings) : ∃ reports, s.visitForest (.cons node below rest) around =
      ({ s with reports } : Pass).visitForest rest around := by
  have left : (s.enter around node tag).2 = none := by
    unfold enter
    split
    · rfl
    · dsimp only
      rw [dropped]
  have split : s.enter around node tag = ((s.enter around node tag).1, none) := Prod.ext rfl left
  obtain ⟨reports, same⟩ := enter_eq_none split
  refine ⟨reports, ?_⟩
  rw [visitForest, data]
  dsimp only
  rw [split, ← same]

namespace Workspace

/-- The numbers in the identifiers of all files. -/
def numbers (w : Workspace) : List UInt64 :=
  w.files.entries.flatMap fun entry => entry.2.numbers

theorem numbers_annotateEach (keepBlanks : Bool) {entries : List (Path × SourceFile)}
    (fresh : ∀ entry ∈ entries, entry.2.annotations = {}) (components : ComponentTable)
    (counter : UInt64) : ∃ count,
    (annotateEach keepBlanks entries components counter).2.2 = counter + UInt64.ofNat count ∧
      (annotateEach keepBlanks entries components counter).1.flatMap
        (fun entry => entry.2.numbers) = drawnFrom counter count := by
  induction entries generalizing components counter with
  | nil => exact ⟨0, (UInt64.add_zero _).symm, rfl⟩
  | cons entry rest ih =>
      obtain ⟨j, counted, numbers⟩ := numbers_annotateFile keepBlanks
        (s := { file := entry.2, components, counter }) (fresh entry List.mem_cons_self)
      obtain ⟨k, counted', numbers'⟩ := ih
        (fun other member => fresh other (List.mem_cons_of_mem _ member))
        (annotateFile keepBlanks { file := entry.2, components, counter }).components
        (annotateFile keepBlanks { file := entry.2, components, counter }).counter
      refine ⟨j + k, ?_, ?_⟩
      · rw [annotateEach, counted', counted, UInt64.ofNat_add, UInt64.add_assoc]
      · rw [annotateEach, List.flatMap_cons, numbers', counted]
        dsimp only
        rw [numbers, drawnFrom_add]

/-- Read file by file and from below, the identifiers of a first run are numbered `0`, `1` and so
on up to the counter. Every annotation is reached this way, its identifier is of the kind that goes
with it, and an element that is dropped leaves the walk as it was. -/
theorem numbers_run (settings : Settings) (scripts : OrderedMap Path CodeUnit)
    (sources : List Source)
    (few : (({ settings, scripts } : Workspace).run sources).1.numbers.length < 2 ^ 64) :
    let w := (({ settings, scripts } : Workspace).run sources).1
    w.numbers.map UInt64.toNat = List.range w.counter.toNat ∧
      (∀ entry ∈ w.files.entries, ∀ id a, entry.2.annotations.get? id = some a →
        id ∈ entry.2.annotations.forest.postorder ∧ a.Labelled) ∧
      ∀ (s : Pass) (node : NodeId) (tag : String) (attributes : Attributes) (below rest : Forest)
        (around : Surroundings), s.document.data? node = some (.element tag attributes) →
          (Plan.read s.document node tag).2 = .dropped →
            ∃ reports, s.visitForest (.cons node below rest) around =
              ({ s with reports } : Pass).visitForest rest around := by
  obtain ⟨linked, components, origin, ran⟩ := run_fst settings scripts sources
  have fresh : ∀ entry ∈ linked, entry.2.annotations = {} := by
    intro entry member
    obtain ⟨source, -, holds⟩ := origin entry member
    exact holds.annotations
  rw [ran] at few ⊢
  obtain ⟨count, counted, numbers⟩ :=
    numbers_annotateEach settings.keepBlanks fresh components 0
  refine ⟨?_, ?_, ?_⟩
  · simp only [Workspace.numbers] at few ⊢
    rw [numbers] at few ⊢
    have bounded : count < 2 ^ 64 := by simpa [drawnFrom] using few
    rw [toNat_drawnFrom_zero bounded, counted, UInt64.zero_add, UInt64.toNat_ofNat_of_lt' bounded]
  · intro entry member id a found
    obtain ⟨before, listed, components, counter, rfl⟩ := mem_annotateEach member
    obtain ⟨reached, labelled⟩ := labelled_annotateFile settings.keepBlanks
      (s := { file := before.2, components, counter }) (fresh before listed) found
    exact ⟨(Forest.postorder_perm_preorder _).mem_iff.2 reached, labelled⟩
  · intro s node tag attributes below rest around data dropped
    exact Pass.visitForest_of_dropped data dropped below rest around

/-- `<p>{{x}}</p>` in a body. -/
def boundParagraph : Document where
  nodes := #[
    { data := .document, children := [1] },
    { data := .element "body" {}, parent := some 0, children := [2] },
    { data := .element "p" {}, parent := some 1, children := [3] },
    { data := .text "{{x}}", parent := some 2 }]

theorem numbers_run_boundParagraph :
    let w := (({} : Workspace).run [{ path := ⟨"a.html"⟩, document := boundParagraph }]).1
    w.numbers.length < 2 ^ 64 ∧ w.numbers.map UInt64.toNat = List.range w.counter.toNat ∧
      w.counter = 2 :=
  have few : (({} : Workspace).run
      [{ path := ⟨"a.html"⟩, document := boundParagraph }]).1.numbers.length < 2 ^ 64 := by
    decide +kernel
  ⟨few, (numbers_run {} {} _ few).1, by decide +kernel⟩

end Workspace
end ComponentMarkup
