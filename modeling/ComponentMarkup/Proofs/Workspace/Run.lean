import ComponentMarkup.Proofs.Linking
import ComponentMarkup.Proofs.Ordered
import ComponentMarkup.Workspace

/-!
A run file by file. No path is there twice, so that linking and annotating take the files in their
order and each in its place.
-/

namespace ComponentMarkup

/-! ## Replacing a file -/

theorem OrderedMap.map_find?_replace {κ υ α : Type} [BEq κ] {key : κ} {value value' : υ}
    {before after : List (κ × υ)} (f : υ → α) (same : f value' = f value) (other : κ) :
    ((mk (before ++ (key, value') :: after)).find? other).map f =
      ((mk (before ++ (key, value) :: after)).find? other).map f := by
  induction before with
  | nil =>
      simp only [List.nil_append, find?, List.find?_cons]
      split
      · simp [same]
      · rfl
  | cons entry before ih =>
      simp only [List.cons_append, find?, List.find?_cons] at ih ⊢
      split
      · rfl
      · exact ih

namespace Workspace

/-! ## All files in turn -/

/-- The files linked in turn, and the components after that. -/
def linkEach (files : OrderedMap Path SourceFile) (scripts : OrderedMap Path CodeUnit) :
    List (Path × SourceFile) → ComponentTable → List (Path × SourceFile) × ComponentTable
  | [], components => ([], components)
  | (path, file) :: rest, components =>
      let (file, components, _) := linkFile files scripts components file
      let (rest, components) := linkEach files scripts rest components
      ((path, file) :: rest, components)

/-- The files annotated in turn, and the components and the counter after that. -/
def annotateEach (keepBlanks : Bool) : List (Path × SourceFile) → ComponentTable → UInt64 →
    List (Path × SourceFile) × ComponentTable × UInt64
  | [], components, counter => ([], components, counter)
  | (path, file) :: rest, components, counter =>
      let pass := annotateFile keepBlanks { file, components, counter }
      let (rest, components, counter) := annotateEach keepBlanks rest pass.components pass.counter
      ((path, pass.file) :: rest, components, counter)

theorem fst_each_cons {α : Type} (step : Workspace → α → Workspace × Diagnostics) (w : Workspace)
    (item : α) (rest : List α) :
    (w.each step (item :: rest)).1 = ((step w item).1.each step rest).1 := rfl

section Turns
variable (settings : Settings) (scripts : OrderedMap Path CodeUnit) (counter : UInt64)

theorem each_annotate (rest : List (Path × SourceFile)) :
    ∀ (before : List (Path × SourceFile)) (components : ComponentTable) (counter : UInt64),
      OrderedMap.Distinct (before ++ rest) →
      (({ settings, files := ⟨before ++ rest⟩, components, scripts, counter } : Workspace).each
        annotate (rest.map Prod.fst)).1 =
          { settings
            files := ⟨before ++ (annotateEach settings.keepBlanks rest components counter).1⟩
            components := (annotateEach settings.keepBlanks rest components counter).2.1
            scripts
            counter := (annotateEach settings.keepBlanks rest components counter).2.2 } := by
  induction rest with
  | nil => exact fun before components counter _ => rfl
  | cons entry rest ih =>
      intro before components counter distinct
      obtain ⟨path, file⟩ := entry
      have found := OrderedMap.find?_of_distinct distinct
      rw [List.map_cons, fst_each_cons]
      simp only [annotate, found, OrderedMap.insert, OrderedMap.write_of_distinct distinct]
      have replaced := OrderedMap.distinct_replace distinct
        (annotateFile settings.keepBlanks { file, components, counter }).file
      have split (value : SourceFile) :
          before ++ (path, value) :: rest = (before ++ [(path, value)]) ++ rest := by simp
      rw [split] at replaced ⊢
      rw [ih _ _ _ replaced]
      simp only [annotateEach, List.append_assoc, List.singleton_append]

/-- A file is linked against the declarations of the others, which linking does not change. -/
theorem each_link (files : OrderedMap Path SourceFile) (rest : List (Path × SourceFile)) :
    ∀ (before : List (Path × SourceFile)) (components : ComponentTable),
      OrderedMap.Distinct (before ++ rest) →
      (∀ link, ((OrderedMap.mk (before ++ rest)).find? link).map SourceFile.declared =
        (files.find? link).map SourceFile.declared) →
      (({ settings, files := ⟨before ++ rest⟩, components, scripts, counter } : Workspace).each
        link (rest.map Prod.fst)).1 =
          { settings
            files := ⟨before ++ (linkEach files scripts rest components).1⟩
            components := (linkEach files scripts rest components).2
            scripts
            counter } := by
  induction rest with
  | nil => exact fun before components _ _ => rfl
  | cons entry rest ih =>
      intro before components distinct same
      obtain ⟨path, file⟩ := entry
      have found := OrderedMap.find?_of_distinct distinct
      rw [List.map_cons, fst_each_cons]
      simp only [link, found, OrderedMap.insert, OrderedMap.write_of_distinct distinct]
      rw [linkFile_congr same]
      have declared : (linkFile files scripts components file).1.declared = file.declared := by
        obtain ⟨code, l, linked, -⟩ := linkFile_eq files scripts components file
        rw [linked]
      have replaced := OrderedMap.distinct_replace distinct
        (linkFile files scripts components file).1
      have stillSame (link : Path) : ((OrderedMap.mk
          (before ++ (path, (linkFile files scripts components file).1) :: rest)).find? link).map
            SourceFile.declared = (files.find? link).map SourceFile.declared :=
        (OrderedMap.map_find?_replace SourceFile.declared declared link).trans (same link)
      have split (value : SourceFile) :
          before ++ (path, value) :: rest = (before ++ [(path, value)]) ++ rest := by simp
      simp only [split] at replaced stillSame ⊢
      rw [ih _ _ replaced stillSame]
      simp only [linkEach, List.append_assoc, List.singleton_append]

end Turns

variable {w : Workspace} (distinct : OrderedMap.Distinct w.files.entries)
include distinct

theorem fst_annotateAll : w.annotateAll.1 =
    let after := annotateEach w.settings.keepBlanks w.files.entries w.components w.counter
    { w with files := ⟨after.1⟩, components := after.2.1, counter := after.2.2 } :=
  each_annotate w.settings w.scripts w.files.entries [] w.components w.counter distinct

theorem fst_linkAll : w.linkAll.1 =
    let after := linkEach w.files w.scripts w.files.entries w.components
    { w with files := ⟨after.1⟩, components := after.2 } :=
  each_link w.settings w.scripts w.counter w.files w.files.entries [] w.components distinct
    fun _ => rfl

end Workspace

/-! ## Whole runs -/

namespace Source

/-- What a source declares on its own. -/
def findings (source : Source) (packageRoot : Path) : Declaration.Findings :=
  Declaration.read
    { path := source.path, isEntry := source.isEntry, document := source.document, packageRoot }

/-- The file of a source, whose components have their numbers from `first` on. -/
def file (source : Source) (packageRoot : Path) (first : ComponentId) : SourceFile :=
  let found := source.findings packageRoot
  { path := source.path
    isEntry := source.isEntry
    document := source.document
    declared := List.range' first found.components.length
    componentLinks := found.componentLinks
    stylesheetLinks := found.stylesheetLinks
    code := found.code
    external := found.external }

end Source

/-- A file that holds the document of a source and has not been annotated. -/
structure SourceFile.Holds (source : Source) (file : SourceFile) : Prop where
  document : file.document = source.document
  annotations : file.annotations = {}

theorem Source.holds_file (source : Source) (packageRoot : Path) (first : ComponentId) :
    (source.file packageRoot first).Holds source :=
  ⟨rfl, rfl⟩

namespace Workspace

theorem registerAll_eq (t : ComponentTable) (components : List Component) :
    registerAll t components = (List.range' t.size components.length, t.extend components) := by
  induction components generalizing t with
  | nil =>
      rw [registerAll, ComponentTable.extend, List.length_nil, Array.append_empty]
      rfl
  | cons c rest ih =>
      rw [registerAll, ComponentTable.add]
      dsimp only
      rw [ih]
      simp [ComponentTable.extend, ComponentTable.size, List.range'_succ]

theorem declare_fst (w : Workspace) (source : Source) : (w.declare source).1 =
    { w with
      files := w.files.insert source.path (source.file w.settings.packageRoot w.components.size)
      components :=
        w.components.extend (source.findings w.settings.packageRoot).components } := by
  unfold declare
  dsimp only
  rw [registerAll_eq]
  rfl

/-- The source that a path stands for. Of several with one path the last one counts. -/
def source? (sources : List Source) (path : Path) : Option Source :=
  sources.reverse.find? (·.path == path)

theorem source?_cons (source : Source) (sources : List Source) (path : Path) :
    source? (source :: sources) path =
      (source? sources path).or (if source.path == path then some source else none) := by
  rw [source?, List.reverse_cons, List.find?_append, source?, List.find?_singleton]

theorem mem_of_source? {sources : List Source} {path : Path} {source : Source}
    (found : source? sources path = some source) : source ∈ sources :=
  List.mem_reverse.1 (List.mem_of_find?_eq_some found)

theorem declareAll_fst {w : Workspace} (sources : List Source)
    (distinct : OrderedMap.Distinct w.files.entries) : ∃ files components,
    (w.declareAll sources).1 = { w with files, components } ∧
      OrderedMap.Distinct files.entries ∧
      ∀ entry ∈ files.entries, source? sources entry.1 = none ∧ entry ∈ w.files.entries ∨
        ∃ source, source? sources entry.1 = some source ∧
          ∃ first, entry.2 = source.file w.settings.packageRoot first := by
  induction sources generalizing w with
  | nil => exact ⟨w.files, w.components, rfl, distinct, fun entry member => .inl ⟨rfl, member⟩⟩
  | cons source sources ih =>
      have declared := w.declare_fst source
      have apart : OrderedMap.Distinct (w.declare source).1.files.entries := by
        rw [declared]
        exact OrderedMap.distinct_write distinct
      obtain ⟨files, components', all, distinct', origin⟩ := ih apart
      refine ⟨files, components', ?_, distinct', fun entry member => ?_⟩
      · rw [declareAll, fst_each_cons]
        refine all.trans ?_
        rw [declared]
      · rw [source?_cons]
        rcases origin entry member with ⟨absent, old⟩ | ⟨other, found, record⟩
        · rw [declared] at old
          rw [absent, Option.none_or]
          rcases OrderedMap.mem_write_of_distinct distinct old with ⟨same, written⟩ | ⟨other, older⟩
          · rw [if_pos same]
            exact .inr ⟨source, rfl, w.components.size, written⟩
          · rw [other]
            exact .inl ⟨rfl, older⟩
        · rw [found]
          rw [declared] at record
          exact .inr ⟨other, rfl, record⟩

theorem linkEach_holds {files : OrderedMap Path SourceFile} {scripts : OrderedMap Path CodeUnit}
    {P : Path → SourceFile → Prop} {entries : List (Path × SourceFile)}
    {components : ComponentTable}
    (kept : ∀ path (file : SourceFile) scope code, P path file → P path { file with scope, code })
    (all : ∀ entry ∈ entries, P entry.1 entry.2) :
    ∀ entry ∈ (linkEach files scripts entries components).1, P entry.1 entry.2 := by
  induction entries generalizing components with
  | nil => exact all
  | cons entry rest ih =>
      obtain ⟨path, file⟩ := entry
      intro linked member
      rcases List.mem_cons.1 member with rfl | later
      · obtain ⟨code, l, same, -⟩ := linkFile_eq files scripts components file
        change P path (linkFile files scripts components file).1
        rw [same]
        exact kept path file l.scope code (all (path, file) List.mem_cons_self)
      · exact ih (fun entry member => all entry (List.mem_cons_of_mem _ member)) linked later

theorem keys_linkEach (files : OrderedMap Path SourceFile) (scripts : OrderedMap Path CodeUnit)
    (entries : List (Path × SourceFile)) (components : ComponentTable) :
    (linkEach files scripts entries components).1.map Prod.fst = entries.map Prod.fst := by
  induction entries generalizing components with
  | nil => rfl
  | cons entry rest ih => exact congrArg (entry.1 :: ·) (ih _)

theorem run_eq (w : Workspace) (sources : List Source) :
    (w.run sources).1 = (w.declareAll sources).1.linkAll.1.annotateAll.1 := rfl

/-- A first run declares the sources, links their files in turn and annotates them in turn. -/
theorem run_turns (settings : Settings) (scripts : OrderedMap Path CodeUnit)
    (sources : List Source) : ∃ files components,
    (({ settings, scripts } : Workspace).declareAll sources).1 =
      { settings, scripts, files, components } ∧
    OrderedMap.Distinct files.entries ∧
    (∀ entry ∈ files.entries, ∃ source, source? sources entry.1 = some source ∧
      ∃ first, entry.2 = source.file settings.packageRoot first) ∧
    (({ settings, scripts } : Workspace).run sources).1 =
      let linked := linkEach files scripts files.entries components
      let after := annotateEach settings.keepBlanks linked.1 linked.2 0
      { settings, scripts, files := ⟨after.1⟩, components := after.2.1, counter := after.2.2 } := by
  obtain ⟨files, components, declared, distinct, origin⟩ :=
    declareAll_fst (w := { settings, scripts }) sources List.Pairwise.nil
  have distinctLinked : OrderedMap.Distinct
      (linkEach files scripts files.entries components).1 :=
    OrderedMap.distinct_of_keys (keys_linkEach files scripts files.entries components) distinct
  refine ⟨files, components, declared, distinct, fun entry member => ?_, ?_⟩
  · rcases origin entry member with ⟨-, impossible⟩ | record
    · cases impossible
    · exact record
  · rw [run_eq, declared, fst_linkAll distinct]
    exact fst_annotateAll distinctLinked

theorem run_fst (settings : Settings) (scripts : OrderedMap Path CodeUnit)
    (sources : List Source) : ∃ linked components,
    (∀ entry ∈ linked, ∃ source, source? sources entry.1 = some source ∧ entry.2.Holds source) ∧
      (({ settings, scripts } : Workspace).run sources).1 =
        let after := annotateEach settings.keepBlanks linked components 0
        { settings, scripts, files := ⟨after.1⟩, components := after.2.1, counter := after.2.2 } := by
  obtain ⟨files, components, -, -, origin, ran⟩ := run_turns settings scripts sources
  refine ⟨_, _, linkEach_holds
    (P := fun path file => ∃ source, source? sources path = some source ∧ file.Holds source)
    ?_ fun entry member => ?_, ran⟩
  · rintro path file scope code ⟨source, found, holds⟩
    exact ⟨source, found, holds.document, holds.annotations⟩
  · obtain ⟨source, found, first, record⟩ := origin entry member
    exact ⟨source, found, record ▸ source.holds_file settings.packageRoot first⟩

theorem mem_annotateEach {keepBlanks : Bool} {entries : List (Path × SourceFile)}
    {components : ComponentTable} {counter : UInt64} {entry : Path × SourceFile}
    (member : entry ∈ (annotateEach keepBlanks entries components counter).1) :
    ∃ before ∈ entries, ∃ components counter,
      entry = (before.1, (annotateFile keepBlanks { file := before.2, components, counter }).file) := by
  induction entries generalizing components counter with
  | nil => cases member
  | cons first rest ih =>
      rcases List.mem_cons.1 member with rfl | later
      · exact ⟨first, List.mem_cons_self, components, counter, rfl⟩
      · obtain ⟨before, listed, same⟩ := ih later
        exact ⟨before, List.mem_cons_of_mem _ listed, same⟩

end Workspace
end ComponentMarkup
