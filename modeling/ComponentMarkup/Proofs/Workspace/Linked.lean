import ComponentMarkup.Proofs.Linking.Reports
import ComponentMarkup.Proofs.Workspace.Inserted

/-!
What linking files makes of a workspace, in closed form. It depends on which files are linked, and
neither on the order nor on how often.
-/

namespace ComponentMarkup

/-- Two files that declare no component in common. -/
def SourceFile.Apart (file other : SourceFile) : Prop := ∀ id ∈ file.declared, id ∉ other.declared

namespace Workspace

theorem link_of_found {w : Workspace} {path : Path} {file : SourceFile}
    (found : w.files.find? path = some file) : w.link path =
      let linked := linkFile w.files w.scripts w.components file
      ({ w with files := w.files.insert path linked.1, components := linked.2.1 }, linked.2.2) := by
  rw [link, found]

theorem link_of_absent {w : Workspace} {path : Path} (absent : w.files.find? path = none) :
    w.link path = (w, []) := by
  rw [link, absent]

/-- The file that declares a component, with its path. -/
def owner? (w : Workspace) (id : ComponentId) : Option (Path × SourceFile) :=
  w.files.entries.find? fun entry => entry.2.declared.contains id

/-- What the file has in scope once it is linked. -/
def scopeOf (w : Workspace) (file : SourceFile) : Scope :=
  Linking.scopeOf w.components (candidates w.files file)

/-- Whether a component clashes in the scope of one of the files. -/
def ClashesIn (w : Workspace) (done : Path → Bool) (id : ComponentId) : Prop :=
  ∃ entry ∈ w.files.entries, done entry.1 = true ∧
    Linking.Clashes w.components entry.2.path (candidates w.files entry.2) id

instance (w : Workspace) (done : Path → Bool) (id : ComponentId) : Decidable (w.ClashesIn done id) :=
  inferInstanceAs (Decidable (∃ _ ∈ _, _))

/-- A component gets its unit and its base when its file is linked. -/
def settled (w : Workspace) (done : Path → Bool) (id : ComponentId) (c : Component) : Component :=
  match w.owner? id with
  | none => c
  | some (path, file) =>
      if done path then Linking.rebase (w.scopeOf file) id (Linking.supply w.scripts c) else c

def linkedFile (w : Workspace) (file : SourceFile) : SourceFile :=
  { file.supplied w.scripts with scope := w.scopeOf file }

/-- The workspace with some of its files linked. -/
def linked (w : Workspace) (done : Path → Bool) : Workspace :=
  { w with
    files := ⟨w.files.entries.map fun entry =>
      (entry.1, if done entry.1 then w.linkedFile entry.2 else entry.2)⟩
    components := ⟨w.components.components.mapIdx fun id c =>
      { w.settled done id c with
        hasConflict := c.hasConflict || decide (w.ClashesIn done id) }⟩ }

/-- No file is linked yet, and no two files declare the same component. -/
structure Unlinked (w : Workspace) : Prop where
  distinct : OrderedMap.Distinct w.files.entries
  fresh : ∀ entry ∈ w.files.entries, entry.2.scope = {}
  apart : w.files.entries.Pairwise fun entry other => entry.2.Apart other.2

/-! ## The closed form -/

section ClosedForm
variable (w : Workspace) (done : Path → Bool) (id : ComponentId)

theorem get?_linked : (w.linked done).components.get? id = (w.components.get? id).map fun c =>
    { w.settled done id c with hasConflict := c.hasConflict || decide (w.ClashesIn done id) } := by
  rw [linked, ComponentTable.get?, Array.getElem?_mapIdx]
  rfl

theorem declaration_settled (c : Component) : (w.settled done id c).declaration = c.declaration := by
  unfold settled
  split
  · rfl
  · split <;> rfl

theorem bare_settled (c : Component) : (w.settled done id c).bare = w.settled done id c.bare := by
  unfold settled
  split
  · rfl
  · split <;> rfl

theorem agrees_linked : w.components.Agrees (w.linked done).components := by
  intro id
  rw [get?_linked, Option.map_map]
  apply Option.map_congr
  intro c _
  exact w.declaration_settled done id c

theorem bare_linked : (w.linked done).components.bare id =
    (w.components.bare id).map (w.settled done id) := by
  rw [ComponentTable.bare, ComponentTable.bare, get?_linked, Option.map_map, Option.map_map]
  apply Option.map_congr
  intro c _
  exact w.bare_settled done id c

theorem hasConflict_linked : (w.linked done).components.hasConflict id = true ↔
    w.components.hasConflict id = true ∨ w.ClashesIn done id := by
  rw [ComponentTable.hasConflict_eq_map, ComponentTable.hasConflict_eq_map, get?_linked]
  cases present : w.components.get? id with
  | none =>
      simp only [Option.map_none, Option.getD_none, Bool.false_eq_true, false_or, false_iff]
      rintro ⟨entry, -, -, first, there, -⟩
      cases present.symm.trans there
  | some c => simp

theorem clashesIn_or (done' : Path → Bool) :
    w.ClashesIn (fun key => done key || done' key) id ↔ w.ClashesIn done id ∨ w.ClashesIn done' id := by
  constructor
  · rintro ⟨entry, member, either, clashes⟩
    rcases Bool.or_eq_true_iff.1 either with first | second
    · exact .inl ⟨entry, member, first, clashes⟩
    · exact .inr ⟨entry, member, second, clashes⟩
  · rintro (⟨entry, member, first, clashes⟩ | ⟨entry, member, second, clashes⟩)
    · exact ⟨entry, member, by simp [first], clashes⟩
    · exact ⟨entry, member, by simp [second], clashes⟩

theorem declared_linked (path : Path) :
    ((w.linked done).files.find? path).map SourceFile.declared =
      (w.files.find? path).map SourceFile.declared := by
  rw [linked, OrderedMap.find?, OrderedMap.find?, List.find?_map, Option.map_map, Option.map_map,
    Option.map_map]
  apply Option.map_congr
  intro entry _
  dsimp only [Function.comp_apply]
  split <;> rfl

variable {w done}

theorem linked_congr {done' : Path → Bool}
    (same : ∀ entry ∈ w.files.entries, done entry.1 = done' entry.1) :
    w.linked done = w.linked done' := by
  have settled (id : ComponentId) : w.settled done id = w.settled done' id := by
    unfold Workspace.settled
    cases owned : w.owner? id with
    | none => rfl
    | some entry =>
        rw [owner?] at owned
        dsimp only
        rw [same entry (List.mem_of_find?_eq_some owned)]
  have clashes (id : ComponentId) : w.ClashesIn done id ↔ w.ClashesIn done' id := by
    apply exists_congr
    intro entry
    apply and_congr_right
    intro member
    rw [same entry member]
  have files : (w.files.entries.map fun entry =>
        (entry.1, if done entry.1 then w.linkedFile entry.2 else entry.2)) =
      w.files.entries.map fun entry =>
        (entry.1, if done' entry.1 then w.linkedFile entry.2 else entry.2) := by
    apply List.map_congr_left
    intro entry member
    rw [same entry member]
  simp only [linked, settled, clashes, files]

theorem linked_none : w.linked (fun _ => false) = w := by
  have components : (w.linked fun _ => false).components = w.components := by
    apply ComponentTable.ext_get?
    intro id
    rw [get?_linked]
    have same (c : Component) : w.settled (fun _ => false) id c = c := by
      unfold settled
      cases w.owner? id <;> rfl
    simp [same, ClashesIn]
  have files : (w.linked fun _ => false).files = w.files := by
    simp [linked]
  change ({ w with
    files := (w.linked fun _ => false).files
    components := (w.linked fun _ => false).components } : Workspace) = w
  rw [files, components]

end ClosedForm

/-! ## One more file -/

section Step
variable {w : Workspace} {done : Path → Bool} {path : Path} {file : SourceFile}

/-- Linking on top of what is linked, for the first time or again. -/
theorem Unlinked.relinks (unlinked : w.Unlinked) (done : Path → Bool) {entry : Path × SourceFile}
    (member : entry ∈ w.files.entries) :
    Relinks w.components w.files (if done entry.1 then w.linkedFile entry.2 else entry.2)
      (w.linked done).components where
  agrees := w.agrees_linked done
  scope := by
    cases before : done entry.1 with
    | false => exact .inl (unlinked.fresh entry member)
    | true =>
        refine .inr ⟨rfl, fun c clashes => ?_⟩
        rw [hasConflict_linked]
        exact .inr ⟨entry, member, before, clashes⟩

/-- When no two files declare the same component, the one that declares it is its owner. -/
theorem owner?_eq_of_apart (apart : w.files.entries.Pairwise fun entry other => entry.2.Apart other.2)
    {entry : Path × SourceFile} (member : entry ∈ w.files.entries) {id : ComponentId}
    (declared : id ∈ entry.2.declared) : w.owner? id = some entry := by
  rw [owner?]
  obtain ⟨before, after, split⟩ := List.append_of_mem member
  rw [split] at apart ⊢
  have others : before.find? (fun other => other.2.declared.contains id) = none := by
    apply List.find?_eq_none.2
    intro other earlier contained
    have listed : id ∈ other.2.declared := by simpa using contained
    exact (List.pairwise_append.1 apart).2.2 other earlier entry List.mem_cons_self id listed declared
  rw [List.find?_append, others, Option.none_or, List.find?_cons]
  simp [declared]

theorem Unlinked.owner?_eq (unlinked : w.Unlinked) {entry : Path × SourceFile}
    (member : entry ∈ w.files.entries) {id : ComponentId} (declared : id ∈ entry.2.declared) :
    w.owner? id = some entry :=
  owner?_eq_of_apart unlinked.apart member declared

theorem declared_of_owner? {id : ComponentId} {entry : Path × SourceFile}
    (owned : w.owner? id = some entry) : entry ∈ w.files.entries ∧ id ∈ entry.2.declared := by
  have member := List.mem_of_find?_eq_some owned
  have contained := List.find?_some owned
  exact ⟨member, by simpa using contained⟩

theorem find?_linked (w : Workspace) (done : Path → Bool) (path : Path) :
    (w.linked done).files.find? path = (w.files.entries.find? (·.1 == path)).map fun entry =>
      if done entry.1 then w.linkedFile entry.2 else entry.2 := by
  rw [linked, OrderedMap.find?, List.find?_map, Option.map_map]
  rfl

theorem linkedFile_eq (w : Workspace) (done : Path → Bool) (entry : Path × SourceFile) :
    let file := if done entry.1 then w.linkedFile entry.2 else entry.2
    candidates w.files file = candidates w.files entry.2 ∧ file.declared = entry.2.declared ∧
      file.path = entry.2.path ∧
      { file.supplied w.scripts with scope := w.scopeOf file } = w.linkedFile entry.2 := by
  cases done entry.1 with
  | false => exact ⟨rfl, rfl, rfl, rfl⟩
  | true =>
      refine ⟨rfl, rfl, rfl, ?_⟩
      simp only [if_true, linkedFile, SourceFile.supplied, Option.or_assoc, Option.or_self]
      rfl

theorem settled_settled (w : Workspace) (done done' : Path → Bool) (id : ComponentId)
    (c : Component) :
    w.settled done id (w.settled done' id c) = w.settled (fun key => done key || done' key) id c := by
  unfold settled
  cases w.owner? id with
  | none => rfl
  | some entry =>
      dsimp only
      by_cases first : done entry.1 = true <;> by_cases second : done' entry.1 = true <;>
        simp [first, second, Linking.supply_rebase, Linking.supply_supply, Linking.rebase_rebase]

section Found
variable (unlinked : w.Unlinked) {entry : Path × SourceFile} (member : entry ∈ w.files.entries)
  (isPath : (entry.1 == path) = true)
include unlinked member isPath

theorem Unlinked.eq_of_isPath {other : Path × SourceFile} (member' : other ∈ w.files.entries)
    (same : (other.1 == path) = true) : other = entry :=
  OrderedMap.eq_of_distinct unlinked.distinct member member' (BEq.trans isPath (BEq.symm same))

theorem Unlinked.settled_path (id : ComponentId) (c : Component) : w.settled (· == path) id c =
    if id ∈ entry.2.declared then
      Linking.rebase (w.scopeOf entry.2) id (Linking.supply w.scripts c)
    else c := by
  by_cases declared : id ∈ entry.2.declared
  · rw [settled, unlinked.owner?_eq member declared]
    simp [declared, isPath]
  · rw [settled, if_neg declared]
    cases owned : w.owner? id with
    | none => rfl
    | some other =>
        obtain ⟨member', declared'⟩ := declared_of_owner? owned
        have different : ¬ (other.1 == path) = true := by
          intro same
          apply declared
          rw [← unlinked.eq_of_isPath member isPath member' same]
          exact declared'
        simp [different]

theorem Unlinked.clashesIn_path (id : ComponentId) : w.ClashesIn (· == path) id ↔
    Linking.Clashes w.components entry.2.path (candidates w.files entry.2) id := by
  constructor
  · rintro ⟨other, member', same, clashes⟩
    rw [← unlinked.eq_of_isPath member isPath member' same]
    exact clashes
  · intro clashes
    exact ⟨entry, member, isPath, clashes⟩

theorem Unlinked.files_insert {file : SourceFile}
    (lookup : (w.linked done).files.find? path = some file) :
    (w.linked done).files.insert path (w.linkedFile entry.2) =
      (w.linked fun key => key == path || done key).files := by
  have distinct : OrderedMap.Distinct (w.linked done).files.entries := by
    apply OrderedMap.distinct_of_keys _ unlinked.distinct
    simp [linked]
  rw [OrderedMap.insert, OrderedMap.write_eq_map distinct lookup]
  simp only [linked, List.map_map]
  congr 1
  apply List.map_congr_left
  intro other member'
  by_cases same : (other.1 == path) = true
  · have equal := unlinked.eq_of_isPath member isPath member' same
    simp [equal, isPath]
  · simp [same]

theorem Unlinked.components_linkFile : (linkFile w.files w.scripts (w.linked done).components
      (if done entry.1 then w.linkedFile entry.2 else entry.2)).2.1 =
    (w.linked fun key => key == path || done key).components := by
  obtain ⟨sameCandidates, sameDeclared, samePath, -⟩ := w.linkedFile_eq done entry
  have relinks := unlinked.relinks done member
  apply ComponentTable.ext_get?
  intro id
  apply ComponentTable.get?_eq_of_bare
  · have twice : w.settled (fun key => key == path || done key) id =
        fun c => w.settled (· == path) id (w.settled done id c) := by
      funext c
      exact (w.settled_settled _ _ id c).symm
    rw [relinks.bare_linkFile, bare_linked, bare_linked, sameDeclared, sameCandidates, twice]
    simp only [unlinked.settled_path member isPath]
    split
    · rw [Option.map_map]
      rfl
    · rfl
  · rw [Bool.eq_iff_iff, relinks.hasConflict_linkFile, hasConflict_linked, hasConflict_linked,
      sameCandidates, samePath, clashesIn_or, unlinked.clashesIn_path member isPath]
    tauto

end Found

theorem Unlinked.link_linked (unlinked : w.Unlinked) (done : Path → Bool) (path : Path) :
    ((w.linked done).link path).1 = w.linked fun key => key == path || done key := by
  have lookup := w.find?_linked done path
  cases found : w.files.entries.find? (·.1 == path) with
  | none =>
      rw [found, Option.map_none] at lookup
      rw [link_of_absent lookup]
      apply linked_congr
      intro entry member
      have other := List.find?_eq_none.1 found entry member
      simp [other]
  | some entry =>
      have member := List.mem_of_find?_eq_some found
      have isPath : (entry.1 == path) = true := by simpa using List.find?_some found
      rw [found, Option.map_some] at lookup
      -- Whether or not the file has been linked before, linking makes the same record of it.
      obtain ⟨-, -, -, again⟩ := w.linkedFile_eq done entry
      have record := ((unlinked.relinks done member).fst_linkFile w.scripts).trans again
      rw [link_of_found lookup, linkFile_congr (w.declared_linked done)]
      change ({ w with
        files := (w.linked done).files.insert path (linkFile w.files w.scripts
          (w.linked done).components (if done entry.1 then w.linkedFile entry.2 else entry.2)).1
        components := (linkFile w.files w.scripts (w.linked done).components
          (if done entry.1 then w.linkedFile entry.2 else entry.2)).2.1 } : Workspace) = _
      rw [record, unlinked.files_insert member isPath lookup,
        unlinked.components_linkFile member isPath]
      rfl

/-- Linking files in turn, with repetitions, comes to linking each of them. -/
theorem Unlinked.each_link_linked (unlinked : w.Unlinked) (done : Path → Bool)
    (paths : List Path) : ((w.linked done).each link paths).1 =
      w.linked fun key => done key || paths.any (key == ·) := by
  induction paths generalizing done with
  | nil => simp [each]
  | cons path paths ih =>
      rw [fst_each_cons, unlinked.link_linked, ih]
      apply linked_congr
      intro entry _
      rw [List.any_cons]
      cases entry.1 == path <;> simp

theorem Unlinked.each_link_eq (unlinked : w.Unlinked) (paths : List Path) :
    (w.each link paths).1 = w.linked fun key => paths.any (key == ·) := by
  have all := unlinked.each_link_linked (fun _ => false) paths
  rw [linked_none] at all
  simpa using all

end Step

/-! ## What is reported -/

/-- The warnings about the components of a file whose bases are missing. -/
def missingBases (w : Workspace) (path : Path) : Diagnostics :=
  match w.files.find? path with
  | none => []
  | some file => file.declared.flatMap (Linking.missingBase w.components (w.scopeOf file))

section Reports
variable {w : Workspace} (unlinked : w.Unlinked)
include unlinked

theorem Unlinked.warnings_link (done : Path → Bool) (path : Path) :
    ((w.linked done).link path).2.ofSeverity .warning = w.missingBases path := by
  have lookup := w.find?_linked done path
  have before : w.files.find? path = (w.files.entries.find? (·.1 == path)).map Prod.snd := rfl
  rw [missingBases, before]
  cases found : w.files.entries.find? (·.1 == path) with
  | none =>
      rw [found, Option.map_none] at lookup
      rw [link_of_absent lookup]
      rfl
  | some entry =>
      have relinks := unlinked.relinks done (List.mem_of_find?_eq_some found)
      obtain ⟨sameCandidates, sameDeclared, -, -⟩ := w.linkedFile_eq done entry
      rw [found, Option.map_some] at lookup
      rw [link_of_found lookup, linkFile_congr (w.declared_linked done)]
      dsimp only [Option.map_some]
      generalize (if done entry.1 then w.linkedFile entry.2 else entry.2) = file at *
      obtain ⟨errors, reported, severe, -⟩ :=
        reports_linkFile w.files w.scripts (w.linked done).components file
      have warnings : file.declared.flatMap (Linking.missingBase
            (linking w.files w.scripts (w.linked done).components file).components
            (linking w.files w.scripts (w.linked done).components file).scope) =
          entry.2.declared.flatMap
            (Linking.missingBase w.components (w.scopeOf entry.2)) := by
        rw [sameDeclared, relinks.scope_linking, sameCandidates]
        apply List.flatMap_congr
        intro id _
        exact Linking.missingBase_congr (relinks.agrees_linking w.scripts) _ id
      change (linkFile w.files w.scripts (w.linked done).components file).2.2.ofSeverity _ = _
      rw [reported, warnings, Diagnostics.ofSeverity_append, Diagnostics.ofSeverity_eq_nil,
        Diagnostics.ofSeverity_eq_self, List.nil_append]
      · intro d member
        obtain ⟨id, -, listed⟩ := List.mem_flatMap.1 member
        exact Linking.severity_missingBase _ _ id d listed
      · intro d member
        simp [severe d member]

theorem Unlinked.warnings_each_linked (done : Path → Bool) (paths : List Path) :
    ((w.linked done).each link paths).2.ofSeverity .warning = paths.flatMap w.missingBases := by
  induction paths generalizing done with
  | nil => rfl
  | cons path paths ih =>
      rw [each]
      dsimp only
      rw [Diagnostics.ofSeverity_append, unlinked.warnings_link, unlinked.link_linked, ih]
      rfl

theorem Unlinked.warnings_each (paths : List Path) :
    (w.each link paths).2.ofSeverity .warning = paths.flatMap w.missingBases := by
  have all := unlinked.warnings_each_linked (fun _ => false) paths
  rwa [linked_none] at all

end Reports
end Workspace
end ComponentMarkup
