import ComponentMarkup.Proofs.Declaration
import ComponentMarkup.Proofs.Workspace.Run

/-!
Declaring the same sources with one more among them. The numbers of the components that come after
it move up; the files of the others and what they declare do not change otherwise.
-/

namespace ComponentMarkup

/-- The number of a component once `count` others have been put in before the number `first`. -/
def shifted (first count id : Nat) : Nat :=
  if id < first then id else id + count

theorem shifted_of_lt {first id : Nat} (count : Nat) (before : id < first) :
    shifted first count id = id :=
  if_pos before

theorem shifted_of_le {first id : Nat} (count : Nat) (later : first ≤ id) :
    shifted first count id = id + count :=
  if_neg (Nat.not_lt.2 later)

theorem shifted_injective (first count : Nat) : Function.Injective (shifted first count) := by
  intro id other same
  unfold shifted at same
  split at same <;> split at same <;> omega

/-- A file whose components have other numbers. -/
def SourceFile.renumbered (rename : ComponentId → ComponentId) (file : SourceFile) : SourceFile :=
  { file with declared := file.declared.map rename }

theorem Source.file_renumbered (source : Source) (packageRoot : Path) {first count n : Nat}
    (later : first ≤ n) : (source.file packageRoot n).renumbered (shifted first count) =
      source.file packageRoot (n + count) := by
  have moved (length : Nat) : (List.range' n length).map (shifted first count) =
      List.range' (n + count) length := by
    have above : ∀ id ∈ List.range' n length, shifted first count id = count + id := by
      intro id member
      rw [shifted_of_le count (Nat.le_trans later (List.mem_range'_1.1 member).1), Nat.add_comm]
    rw [List.map_congr_left above, List.map_add_range', Nat.add_comm]
  simp only [SourceFile.renumbered, Source.file, moved]

namespace Workspace

/-! ## Declaring in turn -/

theorem declareAll_cons (w : Workspace) (source : Source) (sources : List Source) :
    (w.declareAll (source :: sources)).1 = ((w.declare source).1.declareAll sources).1 := rfl

theorem declareAll_append (w : Workspace) (before after : List Source) :
    (w.declareAll (before ++ after)).1 = ((w.declareAll before).1.declareAll after).1 := by
  induction before generalizing w with
  | nil => rfl
  | cons source before ih => exact ih _

theorem hasConflict_declareAll {w : Workspace} (sources : List Source)
    (unflagged : ∀ id, w.components.hasConflict id = false) (id : ComponentId) :
    (w.declareAll sources).1.components.hasConflict id = false := by
  induction sources generalizing w with
  | nil => exact unflagged id
  | cons source sources ih =>
      rw [declareAll_cons, declare_fst]
      refine ih fun n => ?_
      have before := unflagged n
      rw [ComponentTable.hasConflict_eq_map] at before ⊢
      dsimp only
      rw [ComponentTable.get?_extend]
      split
      · exact before
      · cases found : (source.findings w.settings.packageRoot).components[n - w.components.size]?
          with
        | none => rfl
        | some c => exact (Declaration.declared_read _ c (List.mem_of_getElem? found)).hasConflict

/-- Files declare components of the table only. -/
def Numbered (w : Workspace) : Prop :=
  ∀ path file, w.files.find? path = some file → ∀ id ∈ file.declared, id < w.components.size

theorem Numbered.declareAll {w : Workspace} (numbered : w.Numbered) (sources : List Source) :
    (w.declareAll sources).1.Numbered := by
  induction sources generalizing w with
  | nil => exact numbered
  | cons source sources ih =>
      rw [declareAll_cons, declare_fst]
      refine ih fun path file found id member => ?_
      dsimp only at found ⊢
      rw [OrderedMap.find?_insert] at found
      rw [ComponentTable.size_extend]
      split at found
      · obtain rfl := Option.some.inj found
        exact (List.mem_range'_1.1 member).2
      · exact Nat.lt_add_right _ (numbered path file found id member)

theorem find?_declareAll {w : Workspace} {path : Path} {sources : List Source}
    (others : ∀ source ∈ sources, (source.path == path) = false) :
    (w.declareAll sources).1.files.find? path = w.files.find? path := by
  induction sources generalizing w with
  | nil => rfl
  | cons source sources ih =>
      rw [declareAll_cons, ih fun other member => others other (List.mem_cons_of_mem _ member),
        declare_fst, OrderedMap.find?_insert, others source List.mem_cons_self]
      rfl

/-! ## One source more -/

/-- `w'` has one file more than `w`, with `count` components from the number `first` on. -/
structure Inserted (path : Path) (first count : Nat) (w w' : Workspace) : Prop where
  settings : w'.settings = w.settings
  low : first ≤ w.components.size
  size : w'.components.size = w.components.size + count
  components : ∀ id, w'.components.get? (shifted first count id) = w.components.get? id
  files : ∀ other, (other == path) = false →
    w'.files.find? other = (w.files.find? other).map (·.renumbered (shifted first count))

namespace Inserted
variable {path : Path} {first count : Nat} {w w' : Workspace}

theorem start {w : Workspace} (numbered : w.Numbered) (added : Source) :
    Inserted added.path w.components.size
      (added.findings w.settings.packageRoot).components.length w (w.declare added).1 := by
  rw [declare_fst]
  refine ⟨rfl, Nat.le_refl _, w.components.size_extend _, fun id => ?_, fun other different => ?_⟩
  · dsimp only
    rw [ComponentTable.get?_extend]
    rcases Nat.lt_or_ge id w.components.size with inside | outside
    · rw [shifted_of_lt _ inside, if_pos inside]
    · rw [shifted_of_le _ outside, if_neg (Nat.not_lt.2 (Nat.le_add_right_of_le outside)),
        ComponentTable.get?_eq_none outside]
      exact List.getElem?_eq_none (by omega)
  · dsimp only
    rw [OrderedMap.find?_insert, BEq.comm, different]
    cases found : w.files.find? other with
    | none => rfl
    | some file =>
        have kept : ∀ id ∈ file.declared, shifted w.components.size
            (added.findings w.settings.packageRoot).components.length id = id :=
          fun id member => shifted_of_lt _ (numbered other file found id member)
        rw [Option.map_some, SourceFile.renumbered, List.map_congr_left kept, List.map_id']
        rfl

theorem declare (inserted : Inserted path first count w w') (source : Source) :
    Inserted path first count (w.declare source).1 (w'.declare source).1 := by
  rw [declare_fst, declare_fst, inserted.settings]
  have size := inserted.size
  have low := inserted.low
  refine ⟨rfl, ?_, ?_, fun id => ?_, fun other different => ?_⟩
  · dsimp only
    rw [ComponentTable.size_extend]
    omega
  · dsimp only
    rw [ComponentTable.size_extend, ComponentTable.size_extend]
    omega
  · dsimp only
    rw [ComponentTable.get?_extend, ComponentTable.get?_extend, inserted.components, size]
    -- Below `first` both tables number alike; from there on the larger one is `count` ahead.
    rcases Nat.lt_or_ge id first with before | later
    · have inside := Nat.lt_of_lt_of_le before low
      rw [shifted_of_lt _ before, if_pos inside, if_pos (Nat.lt_add_right count inside)]
    · rw [shifted_of_le _ later, Nat.add_sub_add_right]
      exact if_congr Nat.add_lt_add_iff_right rfl rfl
  · dsimp only
    rw [OrderedMap.find?_insert, OrderedMap.find?_insert]
    split
    · rw [Option.map_some, source.file_renumbered _ low, size]
    · exact inserted.files other different

theorem declareAll (inserted : Inserted path first count w w') (sources : List Source) :
    Inserted path first count (w.declareAll sources).1 (w'.declareAll sources).1 := by
  induction sources generalizing w w' with
  | nil => exact inserted
  | cons source sources ih => exact ih (inserted.declare source)

end Inserted
end Workspace
end ComponentMarkup
