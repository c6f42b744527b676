import ComponentMarkup.Proofs.Declaration.Wrapped
import ComponentMarkup.Proofs.Linking.Relocated
import ComponentMarkup.Proofs.Workspace.Linked

/-!
Workspaces in which one document is exchanged for one whose nodes have other numbers. As long as
nothing is annotated every step does the same to both.
-/

namespace ComponentMarkup
variable {path : Path} {ρ : NodeId → NodeId}

namespace ComponentTable

theorem relocate_extend (path : Path) (ρ : NodeId → NodeId) (t : ComponentTable)
    (components : List Component) :
    (t.relocate path ρ).extend (components.map (·.relocatedIn path ρ)) =
      (t.extend components).relocate path ρ := by
  refine congrArg ComponentTable.mk ?_
  rw [extend, Array.map_append]
  exact congrArg (_ ++ ·) List.map_toArray.symm

end ComponentTable

namespace Workspace

/-- The workspace with `d'` as the document of the file at `path`, and with the numbers that its
nodes have there. -/
def respelled (path : Path) (ρ : NodeId → NodeId) (d' : Document) (w : Workspace) : Workspace :=
  { w with
    files := w.files.modify path (.withDocument d')
    components := w.components.relocate path ρ }

variable {d' : Document} {w : Workspace}

theorem snd_declare (w : Workspace) (source : Source) :
    (w.declare source).2 = (source.findings w.settings.packageRoot).reports := rfl

theorem file_findings {source : Source} {packageRoot : Path} {c : Component}
    (member : c ∈ (source.findings packageRoot).components) : c.file = source.path :=
  (Declaration.declared_read _ c member).file

/-! ## Steps -/

/-- To declare another file does the same in both. -/
theorem declare_respelled_of_ne {source : Source} (other : (source.path == path) = false) :
    (w.respelled path ρ d').declare source =
      ((w.declare source).1.respelled path ρ d', (w.declare source).2) := by
  have components : (source.findings w.settings.packageRoot).components.map (·.relocatedIn path ρ) =
      (source.findings w.settings.packageRoot).components := by
    refine (List.map_congr_left fun c member => ?_).trans (List.map_id _)
    exact Component.relocatedIn_of_ne (by rw [file_findings member]; exact other)
  have table := w.components.relocate_extend path ρ
    (source.findings w.settings.packageRoot).components
  rw [components] at table
  have files := w.files.insert_modify path (.withDocument d') source.path
    (source.file w.settings.packageRoot w.components.size)
  rw [other, if_neg Bool.false_ne_true] at files
  refine Prod.ext ?_ rfl
  rw [declare_fst, declare_fst, respelled, respelled]
  dsimp only
  rw [ComponentTable.size_relocate, files, table]

/-- To declare the file in its other spelling does the same in the other workspace. -/
theorem declare_respelled_of_wraps {source : Source} {n inner : NodeId} {tag condition : String}
    {attributes : Attributes} (here : (source.path == path) = true)
    (wraps : source.document.Wraps ρ n inner tag attributes condition d')
    (wellFormed : source.document.WellFormed) (wellFormed' : d'.WellFormed) :
    (w.respelled path ρ d').declare { source with document := d' } =
      ((w.declare source).1.respelled path ρ d', (w.declare source).2) := by
  let r : Declaration.Reading :=
    { path := source.path
      isEntry := source.isEntry
      document := source.document
      packageRoot := w.settings.packageRoot }
  have found : ({ source with document := d' } : Source).findings w.settings.packageRoot =
      (source.findings w.settings.packageRoot).relocated ρ :=
    Declaration.read_wrap (r := r) wraps wellFormed wellFormed'
  have components : (source.findings w.settings.packageRoot).components.map (·.relocated ρ) =
      (source.findings w.settings.packageRoot).components.map (·.relocatedIn path ρ) := by
    refine List.map_congr_left fun c member => ?_
    exact (Component.relocatedIn_of_eq (by rw [file_findings member]; exact here)).symm
  have table := w.components.relocate_extend path ρ
    (source.findings w.settings.packageRoot).components
  have files := w.files.insert_modify path (.withDocument d') source.path
    (source.file w.settings.packageRoot w.components.size)
  rw [here, if_pos rfl] at files
  have record : ({ source with document := d' } : Source).file w.settings.packageRoot
      w.components.size =
        (source.file w.settings.packageRoot w.components.size).withDocument d' := by
    rw [Source.file, found]
    dsimp only
    rw [Declaration.Findings.length_relocated]
    rfl
  refine Prod.ext ?_ ?_
  · rw [declare_fst, declare_fst, respelled, respelled]
    dsimp only
    rw [ComponentTable.size_relocate, record, files, found, ← table, ← components]
    rfl
  · rw [snd_declare, snd_declare]
    have reports := congrArg Declaration.Findings.reports found
    exact reports

theorem link_respelled (w : Workspace) (p : Path) : (w.respelled path ρ d').link p =
    ((w.link p).1.respelled path ρ d', (w.link p).2) := by
  have same (other : Path) : ((w.files.modify path (.withDocument d')).find? other).map
      SourceFile.declared = (w.files.find? other).map SourceFile.declared := by
    rw [OrderedMap.find?_modify]
    split
    · rw [Option.map_map]
      rfl
    · rfl
  have look : (w.respelled path ρ d').files.find? p = _ :=
    w.files.find?_modify path (.withDocument d') p
  have files (file : SourceFile) := w.files.insert_modify path (.withDocument d') p file
  cases found : w.files.find? p with
  | none =>
      rw [found, Option.map_none, ite_self] at look
      rw [link_of_absent found, link_of_absent look]
  | some file =>
      have linked := @linkFile_relocate path ρ _ _ same w.scripts w.components file
      have written := files (linkFile w.files w.scripts w.components file).1
      rw [found, Option.map_some] at look
      rw [link_of_found found]
      cases here : p == path with
      | true =>
          rw [here, if_pos rfl] at look written
          rw [link_of_found look]
          dsimp only [respelled] at written ⊢
          rw [linked, ← written]
      | false =>
          rw [here, if_neg Bool.false_ne_true] at look written
          rw [link_of_found look]
          obtain ⟨code, l, same, -⟩ := linkFile_eq w.files w.scripts w.components file
          have kept : (linkFile w.files w.scripts w.components file).1.withDocument file.document =
              (linkFile w.files w.scripts w.components file).1 := by
            rw [same]
            rfl
          have whole := linked file.document
          rw [kept] at whole
          change linkFile _ _ _ file = _ at whole
          dsimp only [respelled] at written ⊢
          rw [whole, ← written]

/-! ## All steps in turn -/

/-- Steps that commute with a change of the workspace do so one after the other. -/
theorem each_commute {α : Type} {φ : Workspace → Workspace}
    {step : Workspace → α → Workspace × Diagnostics} {items items' : List α}
    (related : List.Forall₂ (fun item item' =>
      ∀ w, step (φ w) item' = (φ (step w item).1, (step w item).2)) items items') (w : Workspace) :
    (φ w).each step items' = (φ (w.each step items).1, (w.each step items).2) := by
  induction related generalizing w with
  | nil => rfl
  | cons first _ ih =>
      rw [each, each, first]
      dsimp only
      rw [ih]

theorem declareAll_respelled {before after : List Source} {source : Source} {n inner : NodeId}
    {tag condition : String} {attributes : Attributes}
    (others : ∀ other ∈ before ++ after, (other.path == source.path) = false)
    (wraps : source.document.Wraps ρ n inner tag attributes condition d')
    (wellFormed : source.document.WellFormed) (wellFormed' : d'.WellFormed) (w : Workspace) :
    (w.respelled source.path ρ d').declareAll (before ++ { source with document := d' } :: after) =
      ((w.declareAll (before ++ source :: after)).1.respelled source.path ρ d',
        (w.declareAll (before ++ source :: after)).2) := by
  have alike {sources : List Source} (member : ∀ other ∈ sources, other ∈ before ++ after) :
      List.Forall₂ (fun other other' : Source => ∀ w : Workspace,
        (w.respelled source.path ρ d').declare other' =
          ((w.declare other).1.respelled source.path ρ d', (w.declare other).2)) sources sources :=
    List.forall₂_same.2 fun other listed w =>
      declare_respelled_of_ne (others other (member other listed))
  refine each_commute (φ := respelled source.path ρ d') (List.rel_append (alike fun other listed => ?_)
    (.cons (fun w => declare_respelled_of_wraps BEq.rfl wraps wellFormed wellFormed')
      (alike fun other listed => ?_))) w
  · exact List.mem_append_left _ listed
  · exact List.mem_append_right _ listed

theorem linkAll_respelled (w : Workspace) : (w.respelled path ρ d').linkAll =
    (w.linkAll.1.respelled path ρ d', w.linkAll.2) := by
  have keys : (w.respelled path ρ d').files.keys = w.files.keys := OrderedMap.keys_modify ..
  rw [linkAll, keys]
  exact each_commute (φ := respelled path ρ d')
    (List.forall₂_same.2 fun p _ w => w.link_respelled p) w

end Workspace
end ComponentMarkup
