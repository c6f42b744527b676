import ComponentMarkup.Proofs.Linking.Steps
import Mathlib.Data.List.Basic

/-!
What linking a file comes to. Its scope has the first component of each tag, and the flags that are
new are those of components that clash with a later one.
-/

namespace ComponentMarkup
namespace Linking

/-- The component that a list of components leaves at a tag. -/
def chosen (t : ComponentTable) (ids : List ComponentId) (tag : String) : Option ComponentId :=
  ids.find? fun id => (t.get? id).any (·.tag == tag)

/-- Whether the list leaves `c` at its tag although another component of the list has the tag as
well. A declaration of the file does not clash with what the file imports. -/
def Clashes (t : ComponentTable) (file : Path) (ids : List ComponentId) (c : ComponentId) : Prop :=
  ∃ first, t.get? c = some first ∧ chosen t ids first.tag = some c ∧
    ∃ other ∈ ids, other ≠ c ∧ ∃ second, t.get? other = some second ∧ second.tag = first.tag ∧
      (first.file == file && !(second.file == file)) = false

instance (t : ComponentTable) (file : Path) (ids : List ComponentId) (c : ComponentId) :
    Decidable (Clashes t file ids c) :=
  decidable_of_iff
    ((t.get? c).any fun first => decide (chosen t ids first.tag = some c) &&
      ids.any fun other => decide (other ≠ c) && (t.get? other).any fun second =>
        decide (second.tag = first.tag ∧ (first.file == file && !(second.file == file)) = false))
    (by simp only [Clashes, Option.any_eq_true, Bool.and_eq_true, decide_eq_true_eq,
      List.any_eq_true])

variable {t u : ComponentTable} {file : Path} {ids : List ComponentId} {tag : String}
  {c id : ComponentId} {l : Linking}

/-! ## What is chosen -/

theorem chosen_append (t : ComponentTable) (ids more : List ComponentId) (tag : String) :
    chosen t (ids ++ more) tag = (chosen t ids tag).or (chosen t more tag) :=
  List.find?_append

theorem exists_of_chosen (found : chosen t ids tag = some c) :
    c ∈ ids ∧ ∃ first, t.get? c = some first ∧ first.tag = tag := by
  rw [chosen] at found
  have held := List.find?_some found
  obtain ⟨first, present, same⟩ := (Option.any_eq_true _ _).1 held
  refine ⟨List.mem_of_find?_eq_some found, ?_⟩
  exact ⟨first, present, eq_of_beq same⟩

theorem chosen_singleton {second : Component} (present : t.get? id = some second) (tag : String) :
    chosen t [id] tag = if second.tag = tag then some id else none := by
  rw [chosen, List.find?_singleton, present, Option.any_some]
  by_cases same : second.tag = tag
  · simp [same]
  · simp [same]

theorem chosen_singleton_of_absent (absent : t.get? id = none) (tag : String) :
    chosen t [id] tag = none := by
  rw [chosen, List.find?_singleton, absent]
  rfl

theorem chosen_congr (agrees : t.Agrees u) (ids : List ComponentId) (tag : String) :
    chosen u ids tag = chosen t ids tag := by
  unfold chosen
  congr 1
  funext id
  have blind (found : Option Component) :
      found.any (·.tag == tag) = (found.map Component.declaration).any (·.tag == tag) := by
    cases found <;> rfl
  rw [blind, agrees id, ← blind]

theorem Clashes.congr (agrees : t.Agrees u) (clashes : Clashes t file ids c) :
    Clashes u file ids c := by
  obtain ⟨first, present, found, other, member, different, second, present', same, visible⟩ :=
    clashes
  obtain ⟨first', there, declared⟩ := agrees.exists_get? present
  obtain ⟨second', there', declared'⟩ := agrees.exists_get? present'
  have tag : first'.tag = first.tag := Component.tag_of_declaration declared
  have tag' : second'.tag = second.tag := Component.tag_of_declaration declared'
  have origin : first'.file = first.file := Component.file_of_declaration declared
  have origin' : second'.file = second.file := Component.file_of_declaration declared'
  refine ⟨first', there, ?_, other, member, different, second', there', ?_, ?_⟩
  · rw [chosen_congr agrees, tag, found]
  · rw [tag', same, tag]
  · rw [origin, origin']
    exact visible

/-! ## Renaming -/

section Renaming
variable {rename : ComponentId → ComponentId} (same : ∀ id, u.get? (rename id) = t.get? id)
include same

theorem chosen_map (ids : List ComponentId) (tag : String) :
    chosen u (ids.map rename) tag = (chosen t ids tag).map rename := by
  have blind : (fun id => (u.get? id).any (·.tag == tag)) ∘ rename =
      fun id => (t.get? id).any (·.tag == tag) :=
    funext fun id => congrArg (Option.any fun c : Component => c.tag == tag) (same id)
  rw [chosen, List.find?_map, blind]
  rfl

theorem clashes_map (injective : Function.Injective rename) :
    Clashes u file (ids.map rename) (rename c) ↔ Clashes t file ids c := by
  constructor
  · rintro ⟨first, there, found, renamed, member, different, second, there', rest⟩
    obtain ⟨other, listed, rfl⟩ := List.mem_map.1 member
    rw [chosen_map same] at found
    obtain ⟨keeper, kept, equal⟩ := Option.map_eq_some_iff.1 found
    rw [injective equal] at kept
    rw [same] at there there'
    exact ⟨first, there, kept, other, listed, fun equal => different (congrArg rename equal),
      second, there', rest⟩
  · rintro ⟨first, there, found, other, member, different, second, there', rest⟩
    refine ⟨first, (same c).trans there, ?_, rename other, List.mem_map_of_mem member, ?_, second,
      (same other).trans there', rest⟩
    · rw [chosen_map same, found, Option.map_some]
    · exact fun equal => different (injective equal)

end Renaming

/-! ## Registering -/

/-- The components `ids` have been registered for `file`, with `t` as the table from before. -/
structure Registered (t : ComponentTable) (file : Path) (ids : List ComponentId) (l : Linking) :
    Prop where
  agrees : t.Agrees l.components
  scope : ∀ tag, l.scope.find? tag = chosen t ids tag
  flagged : ∀ c, l.components.hasConflict c = true ↔
    t.hasConflict c = true ∨ Clashes t file ids c

namespace Registered

/-- Registering one more component clashes with what has its tag, unless that hides it. -/
theorem clashes_iff {second : Component} (present : t.get? id = some second) :
    Clashes t file (ids ++ [id]) c ↔ Clashes t file ids c ∨
      chosen t ids second.tag = some c ∧ id ≠ c ∧ ∃ first, t.get? c = some first ∧
        (first.file == file && !(second.file == file)) = false := by
  constructor
  · rintro ⟨first, there, found, other, member, different, second', there', same, visible⟩
    rw [chosen_append] at found
    cases earlier : chosen t ids first.tag with
    | none =>
        -- Then `c` is the new component, and nothing before it has its tag.
        rw [earlier, Option.none_or, chosen_singleton present] at found
        split at found
        · obtain rfl := Option.some.inj found
          rcases List.mem_append.1 member with old | new
          · have absent := List.find?_eq_none.1 earlier other old
            rw [there', Option.any_some, same, beq_self_eq_true] at absent
            exact absurd rfl absent
          · exact absurd (List.mem_singleton.1 new) different
        · cases found
    | some keeper =>
        rw [earlier, Option.some_or] at found
        obtain rfl := Option.some.inj found
        rcases List.mem_append.1 member with old | new
        · exact .inl ⟨first, there, earlier, other, old, different, second', there', same, visible⟩
        · obtain rfl := List.mem_singleton.1 new
          obtain rfl := Option.some.inj (present.symm.trans there')
          exact .inr ⟨same ▸ earlier, different, first, there, visible⟩
  · rintro (⟨first, there, found, other, member, rest⟩ | ⟨found, different, first, there, visible⟩)
    · refine ⟨first, there, ?_, other, List.mem_append_left _ member, rest⟩
      rw [chosen_append, found, Option.some_or]
    · obtain ⟨-, first', there', same⟩ := exists_of_chosen found
      obtain rfl := Option.some.inj (there.symm.trans there')
      refine ⟨first, there, ?_, id, List.mem_append_right _ List.mem_cons_self, different, second,
        present, same.symm, visible⟩
      rw [chosen_append, same, found, Option.some_or]

theorem clashes_iff_of_absent (absent : t.get? id = none) :
    Clashes t file (ids ++ [id]) c ↔ Clashes t file ids c := by
  have same (tag : String) : chosen t (ids ++ [id]) tag = chosen t ids tag := by
    rw [chosen_append, chosen_singleton_of_absent absent, Option.or_none]
  constructor
  · rintro ⟨first, there, found, other, member, different, second, there', rest⟩
    refine ⟨first, there, same _ ▸ found, other, ?_, different, second, there', rest⟩
    rcases List.mem_append.1 member with old | new
    · exact old
    · rw [List.mem_singleton.1 new, absent] at there'
      cases there'
  · rintro ⟨first, there, found, other, member, rest⟩
    exact ⟨first, there, (same _).trans found, other, List.mem_append_left _ member, rest⟩

variable {l' : Linking} {second : Component}

/-- The tag of the new component is taken, and at most the flag of its keeper changes. -/
theorem taken (registered : Registered t file ids l) (present : t.get? id = some second)
    (keeper : chosen t ids second.tag = some c) (agrees : t.Agrees l'.components)
    (scope : l'.scope = l.scope)
    (flagged : ∀ n, l'.components.hasConflict n = true ↔ l.components.hasConflict n = true ∨
      n = c ∧ id ≠ c ∧ ∃ first, t.get? c = some first ∧
        (first.file == file && !(second.file == file)) = false) :
    Registered t file (ids ++ [id]) l' where
  agrees := agrees
  scope tag := by
    rw [scope, registered.scope, chosen_append, chosen_singleton present]
    split
    · next same => rw [← same, keeper, Option.some_or]
    · rw [Option.or_none]
  flagged n := by
    rw [flagged, registered.flagged, clashes_iff present, keeper, Option.some.injEq, or_assoc]
    refine or_congr_right (or_congr_right ?_)
    constructor
    · rintro ⟨rfl, rest⟩
      exact ⟨rfl, rest⟩
    · rintro ⟨rfl, rest⟩
      exact ⟨rfl, rest⟩

theorem register (registered : Registered t file ids l) (id : ComponentId) :
    Registered t file (ids ++ [id]) (Linking.register file l id) := by
  have agrees := registered.agrees
  have registers := registers_register file l id
  generalize Linking.register file l id = l' at registers ⊢
  cases registers with
  | absent absent =>
      have same := agrees id
      rw [absent, Option.map_none] at same
      have absent' := Option.map_eq_none_iff.1 same.symm
      refine ⟨agrees, fun tag => ?_, fun c => ?_⟩
      · rw [registered.scope, chosen_append, chosen_singleton_of_absent absent', Option.or_none]
      · rw [registered.flagged, clashes_iff_of_absent absent']
  | @admitted second present free =>
      obtain ⟨second', present', declared⟩ := agrees.symm.exists_get? present
      rw [registered.scope, ← Component.tag_of_declaration declared] at free
      refine ⟨agrees, fun tag => ?_, fun c => ?_⟩
      · rw [chosen_append, chosen_singleton present', ← registered.scope,
          ← Component.tag_of_declaration declared]
        dsimp only
        split
        · next same =>
          rw [← same, OrderedMap.find?_insert_self, registered.scope, free, Option.none_or]
        · next other =>
          rw [OrderedMap.find?_insert_of_ne _ _ other, Option.or_none]
      · rw [registered.flagged, clashes_iff present', free]
        simp
  | @settled second existing present taken quiet =>
      obtain ⟨second', present', declared⟩ := agrees.symm.exists_get? present
      rw [registered.scope, ← Component.tag_of_declaration declared] at taken
      refine registered.taken present' taken agrees rfl fun n => ?_
      rw [or_iff_left_of_imp]
      rintro ⟨rfl, different, first', there', visible⟩
      obtain ⟨first, there, declared'⟩ := agrees.exists_get? there'
      rw [← Component.file_of_declaration declared', Component.file_of_declaration declared]
        at visible
      rcases quiet first there with same | hidden | flagged
      · exact absurd same.symm different
      · exact absurd hidden (not_hides_iff.2 visible)
      · rw [ComponentTable.hasConflict, there]
        exact flagged
  | @clashes first second existing present taken keeper different visible unflagged =>
      obtain ⟨second', present', declared⟩ := agrees.symm.exists_get? present
      rw [registered.scope, ← Component.tag_of_declaration declared] at taken
      obtain ⟨first', there', declared'⟩ := agrees.symm.exists_get? keeper
      have visible' := not_hides_iff.1 visible
      rw [← Component.file_of_declaration declared', ← Component.file_of_declaration declared]
        at visible'
      refine registered.taken present' taken (agrees.update _ _ fun _ => rfl) rfl
        fun n => (ComponentTable.hasConflict_flag _ _ n keeper).trans ?_
      refine or_congr_right ⟨fun here => ?_, And.left⟩
      exact ⟨here, different, first', there', visible'⟩

theorem start (l : Linking) (fresh : l.scope = {}) : Registered l.components file [] l where
  agrees := .refl _
  scope tag := by
    rw [fresh]
    rfl
  flagged c := by
    refine ⟨.inl, ?_⟩
    rintro (old | ⟨_, _, found, _⟩)
    · exact old
    · cases found

theorem of_same (registered : Registered t file ids l) (scope : l'.scope = l.scope)
    (agrees : l.components.Agrees l'.components)
    (flagged : l'.components.hasConflict = l.components.hasConflict) :
    Registered t file ids l' where
  agrees := registered.agrees.trans agrees
  scope tag := by rw [scope, registered.scope]
  flagged c := by rw [flagged, registered.flagged]

theorem attachCode (registered : Registered t file ids l) (scripts : OrderedMap Path CodeUnit)
    (id : ComponentId) : Registered t file ids (l.attachCode scripts id) :=
  registered.of_same (scope_attachCode scripts l id) (agrees_attachCode scripts l id)
    (hasConflict_attachCode scripts l id)

theorem findBase (registered : Registered t file ids l) (id : ComponentId) :
    Registered t file ids (l.findBase id) :=
  registered.of_same (scope_findBase l id) (agrees_findBase l id) (hasConflict_findBase l id)

/-! ## Lists of components -/

theorem foldl_register (registered : Registered t file ids l) (more : List ComponentId) :
    Registered t file (ids ++ more) (more.foldl (Linking.register file) l) := by
  induction more generalizing ids l with
  | nil => rwa [List.append_nil]
  | cons id more ih =>
      have next := ih (registered.register id)
      rwa [List.append_assoc, List.singleton_append] at next

theorem foldl_declared (registered : Registered t file ids l)
    (scripts : OrderedMap Path CodeUnit) (more : List ComponentId) :
    Registered t file (ids ++ more)
      (more.foldl (fun l id => (l.register file id).attachCode scripts id) l) := by
  induction more generalizing ids l with
  | nil => rwa [List.append_nil]
  | cons id more ih =>
      have next := ih ((registered.register id).attachCode scripts id)
      rwa [List.append_assoc, List.singleton_append] at next

theorem foldl_findBase (registered : Registered t file ids l) (more : List ComponentId) :
    Registered t file ids (more.foldl Linking.findBase l) := by
  induction more generalizing l with
  | nil => exact registered
  | cons id more ih => exact ih (registered.findBase id)

end Registered
end Linking

/-! ## Files -/

/-- The components that a file declares or imports, in the order in which they are registered. -/
def candidates (files : OrderedMap Path SourceFile) (file : SourceFile) : List ComponentId :=
  file.declared ++ importedBy files file.componentLinks

theorem candidates_map {files files' : OrderedMap Path SourceFile} {file file' : SourceFile}
    {rename : ComponentId → ComponentId} (declared : file'.declared = file.declared.map rename)
    (links : file'.componentLinks = file.componentLinks)
    (imported : ∀ link ∈ file.componentLinks, (files'.find? link).map SourceFile.declared =
      (files.find? link).map fun other => other.declared.map rename) :
    candidates files' file' = (candidates files file).map rename := by
  rw [candidates, candidates, List.map_append, declared, links]
  congr 1
  rw [importedBy, importedBy, List.map_flatMap]
  refine List.flatMap_congr fun link member => ?_
  have same := imported link member
  cases found : files.find? link with
  | none =>
      rw [found, Option.map_none, Option.map_eq_none_iff] at same
      rw [same]
      rfl
  | some other =>
      rw [found, Option.map_some] at same
      obtain ⟨other', found', same⟩ := Option.map_eq_some_iff.1 same
      rw [found']
      exact same

theorem linkFile_eq (files : OrderedMap Path SourceFile) (scripts : OrderedMap Path CodeUnit)
    (t : ComponentTable) (file : SourceFile) : ∃ code l,
      linkFile files scripts t file = ({ file with scope := l.scope, code }, l.components, l.reports) ∧
      (file.scope = {} → Linking.Registered t file.path (candidates files file) l) := by
  refine ⟨(file.supplied scripts).code,
    file.declared.foldl Linking.findBase (linking files scripts t file), ?_, fun fresh => ?_⟩
  · rw [linkFile_eq_linking]
    rfl
  · let start : Linking :=
      { scope := file.scope, components := t, reports := (attachFileCode scripts file).2 }
    have begun : Linking.Registered t file.path [] start := .start start fresh
    have own := begun.foldl_declared scripts file.declared
    exact (own.foldl_register (importedBy files file.componentLinks)).foldl_findBase file.declared

theorem importedBy_congr {files files' : OrderedMap Path SourceFile}
    (same : ∀ link, (files'.find? link).map SourceFile.declared =
      (files.find? link).map SourceFile.declared) (links : List Path) :
    importedBy files' links = importedBy files links := by
  unfold importedBy
  congr 1
  funext link
  have declared := same link
  cases found' : files'.find? link with
  | none =>
      rw [found', Option.map_none] at declared
      rw [Option.map_eq_none_iff.1 declared.symm]
  | some file' =>
      rw [found', Option.map_some] at declared
      obtain ⟨file, found, same⟩ := Option.map_eq_some_iff.1 declared.symm
      rw [found]
      exact same.symm

theorem linkFile_congr {files files' : OrderedMap Path SourceFile}
    (same : ∀ link, (files'.find? link).map SourceFile.declared =
      (files.find? link).map SourceFile.declared) (scripts : OrderedMap Path CodeUnit)
    (components : ComponentTable) (file : SourceFile) :
    linkFile files' scripts components file = linkFile files scripts components file := by
  simp only [linkFile, importedBy_congr same]

end ComponentMarkup
