import ComponentMarkup.Proofs.Linking
import ComponentMarkup.Proofs.Linking.Steps

/-!
Linking reads nothing of the documents: it goes on in the same way when the nodes of one of them
have other numbers.
-/

namespace ComponentMarkup

/-- The component with the nodes of the file at `path` under other numbers. -/
def Component.relocatedIn (path : Path) (ρ : NodeId → NodeId) (c : Component) : Component :=
  c.relocated (if c.file == path then ρ else id)

/-- The table with the nodes of the file at `path` under other numbers. -/
def ComponentTable.relocate (path : Path) (ρ : NodeId → NodeId) (t : ComponentTable) : ComponentTable :=
  ⟨t.components.map (·.relocatedIn path ρ)⟩

/-- The file with another document. -/
def SourceFile.withDocument (d : Document) (file : SourceFile) : SourceFile :=
  { file with document := d }

variable {path : Path} {ρ : NodeId → NodeId}

namespace Component

theorem relocatedIn_of_ne {c : Component} (other : (c.file == path) = false) :
    c.relocatedIn path ρ = c := by
  rw [relocatedIn, other, relocated, if_neg Bool.false_ne_true, Option.map_id_fun]
  rfl

theorem relocatedIn_of_eq {c : Component} (here : (c.file == path) = true) :
    c.relocatedIn path ρ = c.relocated ρ := by
  rw [relocatedIn, here, if_pos rfl]

end Component

namespace ComponentTable

theorem get?_relocate (t : ComponentTable) (id : ComponentId) :
    (t.relocate path ρ).get? id = (t.get? id).map (·.relocatedIn path ρ) :=
  Array.getElem?_map

theorem size_relocate (t : ComponentTable) : (t.relocate path ρ).size = t.size :=
  Array.size_map

theorem update_relocate (path : Path) (ρ : NodeId → NodeId) (t : ComponentTable) (id : ComponentId)
    {f : Component → Component} (commutes : ∀ c, f (c.relocatedIn path ρ) = (f c).relocatedIn path ρ) :
    (t.relocate path ρ).update id f = (t.update id f).relocate path ρ := by
  refine ext_get? fun n => ?_
  rw [get?_update, get?_relocate, get?_relocate, get?_update]
  split
  · rw [Option.map_map, Option.map_map]
    exact Option.map_congr fun c _ => commutes c
  · rfl

end ComponentTable

namespace Linking

/-- The same point of linking, with the nodes of one file under other numbers. -/
def relocate (path : Path) (ρ : NodeId → NodeId) (l : Linking) : Linking :=
  { l with components := l.components.relocate path ρ }

variable (l : Linking) (id : ComponentId)

theorem reportClash_relocate (file : Path) (first second : Component) :
    (l.relocate path ρ).reportClash file id (first.relocatedIn path ρ) (second.relocatedIn path ρ) =
      (l.reportClash file id first second).relocate path ρ := by
  have flagged := l.components.update_relocate path ρ id
    (f := fun c => { c with hasConflict := true }) fun _ => rfl
  unfold reportClash
  dsimp only [relocate]
  rw [flagged]
  rfl

theorem register_relocate (file : Path) :
    register file (l.relocate path ρ) id = (register file l id).relocate path ρ := by
  have look (n : ComponentId) : (l.relocate path ρ).components.get? n =
      (l.components.get? n).map (·.relocatedIn path ρ) := l.components.get?_relocate n
  have scope : (l.relocate path ρ).scope = l.scope := rfl
  unfold register
  rw [look, scope]
  cases l.components.get? id with
  | none => rfl
  | some second =>
      have tag : (second.relocatedIn path ρ).tag = second.tag := rfl
      dsimp only [Option.map_some]
      rw [tag]
      cases l.scope.find? second.tag with
      | none => rfl
      | some existing =>
          dsimp only
          rw [look]
          cases l.components.get? existing with
          | none => rfl
          | some first =>
              dsimp only [Option.map_some]
              rw [reportClash_relocate]
              change (if existing = id then l.relocate path ρ
                else if first.file == file && !(second.file == file) then l.relocate path ρ
                else if first.hasConflict then l.relocate path ρ
                else (l.reportClash file existing first second).relocate path ρ) = _
              split_ifs <;> rfl

theorem attachCode_relocate (scripts : OrderedMap Path CodeUnit) :
    (l.relocate path ρ).attachCode scripts id = (l.attachCode scripts id).relocate path ρ := by
  have look : (l.relocate path ρ).components.get? id =
      (l.components.get? id).map (·.relocatedIn path ρ) := l.components.get?_relocate id
  unfold attachCode
  rw [look]
  cases l.components.get? id with
  | none => rfl
  | some c =>
      obtain ⟨tag, extendsTag, file, element, template, position, base, hasConflict, code,
        external, used⟩ := c
      cases code with
      | some unit => rfl
      | none =>
          cases external with
          | none => rfl
          | some external =>
              have supplied := l.components.update_relocate path ρ id
                (f := fun c => { c with code := (attach scripts external file).1 }) fun _ => rfl
              dsimp only [Option.map_some, Component.relocatedIn, Component.relocated, relocate]
              rw [supplied]

theorem findBase_relocate : (l.relocate path ρ).findBase id = (l.findBase id).relocate path ρ := by
  have look : (l.relocate path ρ).components.get? id =
      (l.components.get? id).map (·.relocatedIn path ρ) := l.components.get?_relocate id
  have scope : (l.relocate path ρ).scope = l.scope := rfl
  unfold findBase
  rw [look, scope]
  cases l.components.get? id with
  | none => rfl
  | some c =>
      have extended : (c.relocatedIn path ρ).extendsTag = c.extendsTag := rfl
      dsimp only [Option.map_some]
      rw [extended]
      cases (l.scope.find? c.extendsTag).filter (· != id) with
      | some base =>
          have based := l.components.update_relocate path ρ id
            (f := fun c => { c with base := some base }) fun _ => rfl
          dsimp only [relocate]
          rw [based]
      | none =>
          dsimp only
          split <;> rfl

theorem declareOwn_relocate (scripts : OrderedMap Path CodeUnit) (file : Path) :
    declareOwn scripts file (l.relocate path ρ) id = (declareOwn scripts file l id).relocate path ρ := by
  rw [declareOwn, register_relocate, attachCode_relocate]
  rfl

end Linking

/-! ## Files -/

/-- Linking goes the same way, and leaves the nodes under the numbers that they had. -/
theorem linkFile_relocate {files files' : OrderedMap Path SourceFile}
    (same : ∀ link, (files'.find? link).map SourceFile.declared =
      (files.find? link).map SourceFile.declared) (scripts : OrderedMap Path CodeUnit)
    (t : ComponentTable) (file : SourceFile) (d : Document) :
    linkFile files' scripts (t.relocate path ρ) (file.withDocument d) =
      ((linkFile files scripts t file).1.withDocument d,
        (linkFile files scripts t file).2.1.relocate path ρ, (linkFile files scripts t file).2.2) := by
  have own (l : Linking) : file.declared.foldl (Linking.declareOwn scripts file.path)
      (l.relocate path ρ) =
        (file.declared.foldl (Linking.declareOwn scripts file.path) l).relocate path ρ :=
    List.foldl_hom _ fun l id => l.declareOwn_relocate id scripts file.path
  have imported (l : Linking) : (importedBy files file.componentLinks).foldl
      (Linking.register file.path) (l.relocate path ρ) =
        ((importedBy files file.componentLinks).foldl (Linking.register file.path) l).relocate path ρ :=
    List.foldl_hom _ fun l id => l.register_relocate id file.path
  have based (l : Linking) : file.declared.foldl Linking.findBase (l.relocate path ρ) =
      (file.declared.foldl Linking.findBase l).relocate path ρ :=
    List.foldl_hom _ fun l id => l.findBase_relocate id
  have linked : linking files scripts (t.relocate path ρ) (file.withDocument d) =
      (linking files scripts t file).relocate path ρ := by
    have reports : (attachFileCode scripts (file.withDocument d)).2 =
        (attachFileCode scripts file).2 := by
      unfold attachFileCode SourceFile.withDocument
      cases file.code with
      | some unit => rfl
      | none => cases file.external <;> rfl
    unfold linking
    dsimp only
    rw [reports, ← imported, ← own]
    rfl
  rw [linkFile_congr same, linkFile_eq_linking, linkFile_eq_linking, linked]
  have declared : (file.withDocument d).declared = file.declared := rfl
  dsimp only
  rw [declared, based]
  rfl

end ComponentMarkup
